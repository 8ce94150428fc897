import TopicLifecycle.Proofs.Document
import TopicLifecycle.Proofs.Variables

/-!
Properties as a map, and translating their keys to the client library's spelling.
-/

namespace TopicLifecycle.Settings

namespace Properties

theorem lookup_nil (key : String) : lookup [] key = none := rfl

theorem lookup_cons (entry : String × String) (rest : List (String × String)) (key : String) :
    lookup (entry :: rest) key = if entry.1 = key then some entry.2 else lookup rest key := by
  by_cases named : entry.1 = key <;> simp [lookup, named]

theorem lookup_append (first second : List (String × String)) (key : String) :
    lookup (first ++ second) key = (lookup first key).or (lookup second key) := by
  induction first with
  | nil => rfl
  | cons entry rest ih =>
    rw [List.cons_append, lookup_cons, lookup_cons, ih]
    split <;> rfl

theorem lookup_ne_none_of_mem {entries : List (String × String)} {key value : String}
    (member : (key, value) ∈ entries) : lookup entries key ≠ none := by
  induction entries with
  | nil => exact absurd member List.not_mem_nil
  | cons entry rest ih =>
    rw [lookup_cons]
    split
    · exact Option.some_ne_none _
    · next differs =>
      rcases List.mem_cons.mp member with rfl | inRest
      · exact absurd rfl differs
      · exact ih inRest

theorem mem_of_lookup_eq_some {entries : List (String × String)} {key value : String}
    (found : lookup entries key = some value) : (key, value) ∈ entries := by
  induction entries with
  | nil => cases found
  | cons entry rest ih =>
    rw [lookup_cons] at found
    split at found
    · next same =>
      cases found
      subst same
      exact List.mem_cons_self
    · exact List.mem_cons_of_mem _ (ih found)

theorem lookup_insertEntry (key value : String) (entries : List (String × String)) (other : String) :
    lookup (insertEntry key value entries) other =
      if key = other then some value else lookup entries other := by
  induction entries with
  | nil => rw [insertEntry, lookup_cons, lookup_nil]
  | cons entry rest ih =>
    obtain ⟨existing, old⟩ := entry
    unfold insertEntry
    by_cases below : key < existing
    · rw [if_pos below, lookup_cons]
    · rw [if_neg below]
      by_cases same : key = existing
      · subst same
        rw [if_pos rfl, lookup_cons, lookup_cons]
        by_cases named : key = other <;> simp [named]
      · rw [if_neg same, lookup_cons, lookup_cons, ih]
        by_cases named : key = other <;> by_cases found : existing = other <;> simp_all

theorem get?_insert (key value : String) (properties : Properties) (other : String) :
    (properties.insert key value).get? other =
      if key = other then some value else properties.get? other :=
  lookup_insertEntry key value properties.entries other

theorem ofList_eq_foldl (entries : List (String × String)) :
    ofList entries = entries.foldl (fun properties entry => properties.insert entry.1 entry.2) .empty :=
  rfl

theorem get?_foldl_insert (key : String) :
    ∀ (entries : List (String × String)) (start : Properties),
      (entries.foldl (fun properties entry => properties.insert entry.1 entry.2) start).get? key =
        (lookup entries.reverse key).or (start.get? key)
  | [], start => rfl
  | (name, value) :: rest, start => by
    rw [List.foldl_cons, get?_foldl_insert key rest, get?_insert, List.reverse_cons, lookup_append,
      Option.or_assoc, lookup_cons, lookup_nil]
    split <;> rfl

/-- The value a key ends with is the last one the entries give it. -/
theorem get?_ofList (entries : List (String × String)) (key : String) :
    (ofList entries).get? key = lookup entries.reverse key := by
  rw [ofList_eq_foldl, get?_foldl_insert]
  exact Option.or_none

theorem lookup_eq_none_of_absent {entries : List (String × String)} {key : String}
    (absent : ∀ entry ∈ entries, entry.1 ≠ key) : lookup entries key = none := by
  induction entries with
  | nil => rfl
  | cons entry rest ih =>
    rw [lookup_cons, if_neg (absent entry List.mem_cons_self)]
    exact ih fun other member => absent other (List.mem_cons_of_mem _ member)

theorem keys_nodup (properties : Properties) : (properties.entries.map Prod.fst).Nodup :=
  List.pairwise_map.mpr (properties.ascending.imp ne_of_lt)

theorem nodup (properties : Properties) : properties.entries.Nodup :=
  properties.ascending.imp fun below same => ne_of_lt below (congrArg Prod.fst same)

theorem lookup_eq_some_iff {entries : List (String × String)} (distinct : (entries.map Prod.fst).Nodup)
    {key value : String} : lookup entries key = some value ↔ (key, value) ∈ entries := by
  induction entries with
  | nil => simp [lookup_nil]
  | cons entry rest ih =>
    obtain ⟨existing, old⟩ := entry
    rw [List.map_cons, List.nodup_cons] at distinct
    rw [lookup_cons, List.mem_cons]
    split
    · next same =>
      subst same
      have absent : (existing, value) ∉ rest := fun member =>
        distinct.1 (List.mem_map.mpr ⟨_, member, rfl⟩)
      simp [absent, eq_comm]
    · next differs =>
      rw [ih distinct.2]
      simp [Ne.symm differs]

theorem get?_eq_some_iff (properties : Properties) {key value : String} :
    properties.get? key = some value ↔ (key, value) ∈ properties :=
  lookup_eq_some_iff properties.keys_nodup

theorem mem_of_mem_ofList {entries : List (String × String)} {entry : String × String}
    (member : entry ∈ ofList entries) : entry ∈ entries := by
  obtain ⟨key, value⟩ := entry
  rw [← get?_eq_some_iff, get?_ofList] at member
  exact List.mem_reverse.mp (mem_of_lookup_eq_some member)

theorem lookup_reverse {entries : List (String × String)} (distinct : (entries.map Prod.fst).Nodup)
    (key : String) : lookup entries.reverse key = lookup entries key := by
  have reversed : (entries.reverse.map Prod.fst).Nodup := by
    rw [List.map_reverse]
    exact List.nodup_reverse.mpr distinct
  cases found : lookup entries key with
  | none =>
    cases other : lookup entries.reverse key with
    | none => rfl
    | some value =>
      have member := List.mem_reverse.mp ((lookup_eq_some_iff reversed).mp other)
      rw [(lookup_eq_some_iff distinct).mpr member] at found
      cases found
  | some value =>
    exact (lookup_eq_some_iff reversed).mpr
      (List.mem_reverse.mpr ((lookup_eq_some_iff distinct).mp found))

theorem eq_of_get? {properties other : Properties}
    (same : ∀ key, properties.get? key = other.get? key) : properties = other := by
  refine Properties.ext (List.Perm.eq_of_pairwise ?_ properties.ascending other.ascending ?_)
  · intro first second _ _ below above
    exact absurd (lt_trans below above) (lt_irrefl _)
  · rw [List.perm_ext_iff_of_nodup properties.nodup other.nodup]
    rintro ⟨key, value⟩
    rw [← mem_iff, ← mem_iff, ← get?_eq_some_iff, ← get?_eq_some_iff, same]

theorem ofList_entries (properties : Properties) : ofList properties.entries = properties :=
  eq_of_get? fun key => by rw [get?_ofList, lookup_reverse properties.keys_nodup]; rfl

theorem mem_ofList {entries : List (String × String)} (distinct : (entries.map Prod.fst).Nodup)
    {entry : String × String} : entry ∈ ofList entries ↔ entry ∈ entries := by
  obtain ⟨key, value⟩ := entry
  rw [← get?_eq_some_iff, get?_ofList, lookup_reverse distinct, lookup_eq_some_iff distinct]

theorem length_ofList {entries : List (String × String)} (distinct : (entries.map Prod.fst).Nodup) :
    (ofList entries).entries.length = entries.length := by
  have nodup : entries.Nodup := List.Nodup.of_map Prod.fst distinct
  exact List.Perm.length_eq ((List.perm_ext_iff_of_nodup (ofList entries).nodup nodup).mpr
    fun _ => mem_ofList distinct)

end Properties

/-! ### Keys with dots -/

theorem dotted_dotted (key : String) : dotted (dotted key) = dotted key := by
  rw [dotted, dotted, String.toList_ofList, List.map_map]
  congr 2
  funext character
  by_cases underscore : character = '_' <;> simp [underscore]

def dottedEntries (properties : Properties) : List (String × String) :=
  properties.entries.map fun entry => (dotted entry.1, entry.2)

theorem dottedEntries_of_dotted {properties : Properties}
    (dottedKeys : ∀ entry ∈ properties, dotted entry.1 = entry.1) :
    dottedEntries properties = properties.entries := by
  conv_rhs => rw [← List.map_id properties.entries]
  exact List.map_congr_left fun entry member => by rw [dottedKeys entry member]; rfl

theorem mem_dottedEntries {properties : Properties} {key value : String} :
    (key, value) ∈ dottedEntries properties ↔
      ∃ original, (original, value) ∈ properties ∧ dotted original = key := by
  simp only [dottedEntries, List.mem_map, Prod.mk.injEq, Properties.mem_iff]
  constructor
  · rintro ⟨⟨original, kept⟩, member, respelled, rfl⟩
    exact ⟨original, member, respelled⟩
  · rintro ⟨original, member, respelled⟩
    exact ⟨(original, value), member, respelled, rfl⟩

namespace ClientSettings

variable (settings : ClientSettings)

theorem translate_properties :
    settings.translate.properties = Properties.ofList (dottedEntries settings.properties) := rfl

theorem translate_keys_dotted :
    ∀ entry ∈ settings.translate.properties, dotted entry.1 = entry.1 := by
  rintro ⟨key, value⟩ member
  rw [translate_properties] at member
  obtain ⟨original, -, rfl⟩ := mem_dottedEntries.mp (Properties.mem_of_mem_ofList member)
  exact dotted_dotted original

theorem translate_translate : settings.translate.translate = settings.translate := by
  have kept : settings.translate.translate.properties = settings.translate.properties := by
    rw [translate_properties settings.translate,
      dottedEntries_of_dotted (translate_keys_dotted settings), Properties.ofList_entries]
  exact congrArg (fun properties => { settings.translate with properties }) kept

theorem translate_entry {key value : String}
    (member : (key, value) ∈ settings.translate.properties) :
    ∃ original, (original, value) ∈ settings.properties ∧ dotted original = key := by
  rw [translate_properties] at member
  exact mem_dottedEntries.mp (Properties.mem_of_mem_ofList member)

theorem translate_has_key {original value : String} (member : (original, value) ∈ settings.properties) :
    ∃ kept, (dotted original, kept) ∈ settings.translate.properties := by
  have respelled : (dotted original, value) ∈ dottedEntries settings.properties :=
    mem_dottedEntries.mpr ⟨original, member, rfl⟩
  have found := Properties.lookup_ne_none_of_mem (List.mem_reverse.mpr respelled)
  rw [← Properties.get?_ofList, ← translate_properties] at found
  obtain ⟨kept, has⟩ := Option.ne_none_iff_exists'.mp found
  exact ⟨kept, (Properties.get?_eq_some_iff _).mp has⟩

theorem dottedEntries_keys :
    (dottedEntries settings.properties).map Prod.fst =
      settings.properties.entries.map fun entry => dotted entry.1 := by
  simp [dottedEntries]

variable {settings} in
theorem mem_translate_iff
    (distinct : (settings.properties.entries.map fun entry => dotted entry.1).Nodup)
    {key value : String} :
    (key, value) ∈ settings.translate.properties ↔
      ∃ original, (original, value) ∈ settings.properties ∧ dotted original = key := by
  rw [translate_properties, Properties.mem_ofList (dottedEntries_keys settings ▸ distinct),
    mem_dottedEntries]

variable {settings} in
theorem length_translate
    (distinct : (settings.properties.entries.map fun entry => dotted entry.1).Nodup) :
    settings.translate.properties.entries.length = settings.properties.entries.length := by
  rw [translate_properties, Properties.length_ofList (dottedEntries_keys settings ▸ distinct),
    dottedEntries, List.length_map]

/-- Translating settings respells each property key with dots and changes nothing else. Each
entry of the translated properties is an original entry respelled, and every original key has one
under its respelling, so of keys that share a respelling one value survives. When no two keys
share one, the translated properties are exactly the respelled entries, as many as there were.
Translating twice is translating once. -/
theorem translate_respells_keys :
    { settings.translate with properties := settings.properties } = settings ∧
    (∀ key value, (key, value) ∈ settings.translate.properties →
      ∃ original, (original, value) ∈ settings.properties ∧ dotted original = key) ∧
    (∀ original value, (original, value) ∈ settings.properties →
      ∃ kept, (dotted original, kept) ∈ settings.translate.properties) ∧
    ((settings.properties.entries.map fun entry => dotted entry.1).Nodup →
      (∀ key value, (key, value) ∈ settings.translate.properties ↔
        ∃ original, (original, value) ∈ settings.properties ∧ dotted original = key) ∧
      settings.translate.properties.entries.length = settings.properties.entries.length) ∧
    settings.translate.translate = settings.translate :=
  ⟨rfl, fun _ _ member => translate_entry settings member,
    fun _ _ member => translate_has_key settings member,
    fun distinct => ⟨fun _ _ => mem_translate_iff distinct, length_translate distinct⟩,
    translate_translate settings⟩

end ClientSettings

end TopicLifecycle.Settings
