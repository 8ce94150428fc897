import Mathlib.Data.List.Nodup
import TopicLifecycle.Proofs.Decode

/-!
Manager settings read the client settings flattened into their own map, as a buffer; a buffer
reads as a document does, save for a unit variant written as a map.
-/

namespace TopicLifecycle

namespace Json.Value

theorem mem_of_field? {members : List (String × Value)} {key : String} {item : Value}
    (found : (Value.object members).field? key = some item) : (key, item) ∈ members := by
  simp only [field?, Option.map_eq_some_iff] at found
  obtain ⟨member, first, rfl⟩ := found
  have named : member.1 = key := by simpa using List.find?_some first
  rw [← named]
  exact List.mem_reverse.mp (List.mem_of_find?_eq_some first)

theorem field?_of_mem {members : List (String × Value)} (distinct : (members.map Prod.fst).Nodup)
    {key : String} {item : Value} (member : (key, item) ∈ members) :
    (Value.object members).field? key = some item := by
  simp only [field?]
  cases first : members.reverse.find? (·.1 == key) with
  | none =>
    have absent := List.find?_eq_none.mp first (key, item) (List.mem_reverse.mpr member)
    simp at absent
  | some found =>
    have named : found.1 = key := by simpa using List.find?_some first
    have same : found = (key, item) :=
      List.inj_on_of_nodup_map distinct (List.mem_reverse.mp (List.mem_of_find?_eq_some first))
        member named
    simp [same]

end Json.Value

namespace Decode

open Json Settings

/-! ### What a buffer reads that a document refuses -/

def UnitAsEmptyMap (value : Value) : Prop := ∃ name, value = .object [(name, .object [])]

def MechanismAsEmptyMap (sasl : Value) : Prop :=
  (∃ members mechanism, sasl = .object members ∧ ("mechanism", mechanism) ∈ members ∧
    UnitAsEmptyMap mechanism) ∨
  ∃ mechanism rest, sasl = .array (mechanism :: rest) ∧ UnitAsEmptyMap mechanism

def SaslMechanismAsEmptyMap (document : Value) : Prop :=
  ∃ sasl, document.canonical.field? "sasl" = some sasl ∧ MechanismAsEmptyMap sasl

theorem decodeMechanism_document_of_unitAsEmptyMap {value : Value} (written : UnitAsEmptyMap value) :
    ∃ error, decodeMechanism .document value = .error error := by
  obtain ⟨name, rfl⟩ := written
  cases variant : mechanismVariant name with
  | error error => exact ⟨error, by simp [decodeMechanism, variant]; rfl⟩
  | ok mechanism => exact ⟨_, by simp [decodeMechanism, variant, decodeUnit]; rfl⟩

theorem decodeMechanism_buffered {value : Value} (notEmpty : ¬ UnitAsEmptyMap value) :
    decodeMechanism .buffered value = decodeMechanism .document value := by
  match value with
  | .object [(name, payload)] =>
    have payloadNotEmpty : payload ≠ .object [] := fun same => notEmpty ⟨name, by rw [same]⟩
    cases payload with
    | object members =>
      cases members with
      | nil => exact absurd rfl payloadNotEmpty
      | cons _ _ => rfl
    | _ => rfl
  | .object [] => rfl
  | .object (_ :: _ :: _) => rfl
  | .null => rfl
  | .bool _ => rfl
  | .number _ => rfl
  | .string _ => rfl
  | .array _ => rfl

/-! ### Carrying a successful read from one reader to another -/

section Transfer

variable {σ : Type} {source source' : Source} {shape : RecordShape}
  {decodeField decodeField' : Nat → Value → Except DecodeError (σ → σ)} (good : Nat → Value → Prop)
  (fields : ∀ index item update, good index item → decodeField index item = .ok update →
    decodeField' index item = .ok update)
include fields

theorem decodeMembers_transfer {state result : σ} {seen : List Nat} {members : List (String × Value)}
    (named : ∀ key item index, (key, item) ∈ members → shape.fieldIndex? key = some index →
      good index item)
    (decoded : decodeMembers source shape decodeField state seen members = .ok result) :
    decodeMembers source' shape decodeField' state seen members = .ok result := by
  induction members generalizing state seen with
  | nil => exact decoded
  | cons member rest ih =>
    obtain ⟨key, item⟩ := member
    have namedRest := fun key item index (inRest : (key, item) ∈ rest) =>
      named key item index (List.mem_cons_of_mem _ inRest)
    rcases decodeMembers_cons_ok decoded with ⟨unknown, later⟩ | ⟨index, update, found, fresh, field, later⟩
    · rw [decodeMembers_unknown rest unknown]
      exact ih namedRest later
    · have field' := fields index item update (named key item index List.mem_cons_self found) field
      rw [decodeMembers_known rest found fresh field']
      exact ih namedRest later

theorem decodeElements_transfer {state result : σ} {index : Nat} {shapes : List FieldShape}
    {items : List Value}
    (placed : ∀ offset item, items[offset]? = some item → good (index + offset) item)
    (decoded : decodeElements source shape decodeField state index shapes items = .ok result) :
    decodeElements source' shape decodeField' state index shapes items = .ok result := by
  induction shapes generalizing state index items with
  | nil => exact decoded
  | cons field shapes ih =>
    cases items with
    | nil =>
      unfold decodeElements at decoded ⊢
      split at decoded
      · cases decoded
      · next optional =>
        rw [if_neg optional]
        exact ih (fun _ _ none => by simp at none) decoded
    | cons item items =>
      have placedRest : ∀ offset later, items[offset]? = some later → good (index + 1 + offset) later := by
        intro offset later found
        have shifted := placed (offset + 1) later (by simpa using found)
        rwa [show index + (offset + 1) = index + 1 + offset by omega] at shifted
      unfold decodeElements at decoded ⊢
      cases field : decodeField index item with
      | error error => simp [field] at decoded
      | ok update =>
        simp only [field] at decoded
        rw [fields index item update (by simpa using placed 0 item (by simp)) field]
        exact ih placedRest decoded

theorem decodeRecord_transfer (notEnvironment : source ≠ .environment) {initial result : σ}
    {value : Value}
    (named : ∀ members, value = .object members → ∀ key item index, (key, item) ∈ members →
      shape.fieldIndex? key = some index → good index item)
    (placed : ∀ items, value = .array items → ∀ offset item, items[offset]? = some item →
      good offset item)
    (decoded : decodeRecord source shape initial decodeField value = .ok result) :
    decodeRecord source' shape initial decodeField' value = .ok result := by
  cases value with
  | object members => exact decodeMembers_transfer good fields (named members rfl) decoded
  | array items =>
    cases elements : decodeElements source shape decodeField initial 0 shape.fields items with
    | error error =>
      rw [decodeRecord, elements] at decoded
      cases decoded
    | ok state =>
      have elements' : decodeElements source' shape decodeField' initial 0 shape.fields items =
          .ok state :=
        decodeElements_transfer good fields
          (fun offset item found => by simpa using placed items rfl offset item found) elements
      by_cases fits : items.length ≤ shape.fields.length
      · simp only [decodeRecord, elements, elements', fits, if_true] at decoded ⊢
        exact decoded
      · cases source <;> simp [decodeRecord, elements, fits] at decoded notEnvironment <;>
          cases decoded
  | _ => simp [decodeRecord] at decoded

end Transfer

theorem decodeOptional_of_ne_null {α : Type} {decode : Value → Except DecodeError α} {value : Value}
    (notNull : value ≠ .null) : decodeOptional decode value = (decode value).map some := by
  cases value
  · exact absurd rfl notNull
  all_goals rfl

theorem decodeOptional_transfer {α : Type} {decode decode' : Value → Except DecodeError α}
    {value : Value} {result : Option α}
    (transfer : ∀ decoded, value ≠ .null → decode value = .ok decoded → decode' value = .ok decoded)
    (decoded : decodeOptional decode value = .ok result) : decodeOptional decode' value = .ok result := by
  by_cases null : value = .null
  · subst null
    exact decoded
  · rw [decodeOptional_of_ne_null null] at decoded ⊢
    cases read : decode value with
    | error error => simp [read, Except.map] at decoded
    | ok inner =>
      rw [read] at decoded
      rw [transfer inner null read]
      exact decoded

theorem setWith_transfer {α σ : Type} {decode decode' : Value → Except DecodeError α} {set : α → σ → σ}
    {value : Value} {update : σ → σ}
    (transfer : ∀ decoded, decode value = .ok decoded → decode' value = .ok decoded)
    (decoded : setWith decode set value = .ok update) : setWith decode' set value = .ok update := by
  obtain ⟨inner, read, rfl⟩ := setWith_ok.mp decoded
  exact setWith_ok.mpr ⟨inner, transfer inner read, rfl⟩

/-! ### The fields of a record, by key and by position -/

theorem RecordShape.named_of_fieldIndex? {shape : RecordShape} {key : String} {index : Nat}
    (found : shape.fieldIndex? key = some index) :
    ∃ field, shape.fields[index]? = some field ∧ (field.name = key ∨ key ∈ field.aliases) := by
  obtain ⟨bound, names, -⟩ := List.findIdx?_eq_some_iff_getElem.mp found
  exact ⟨shape.fields[index], List.getElem?_eq_getElem bound, by simpa using names⟩

theorem RecordShape.key_eq_of_fieldIndex? {shape : RecordShape} {key : String} {index : Nat}
    {field : FieldShape} (listed : shape.fields[index]? = some field) (noAliases : field.aliases = [])
    (found : shape.fieldIndex? key = some index) : key = field.name := by
  obtain ⟨other, otherListed, named⟩ := RecordShape.named_of_fieldIndex? found
  rw [listed, Option.some.injEq] at otherListed
  subst otherListed
  rw [noAliases] at named
  simpa [eq_comm] using named

theorem placed_zero {items : List Value} {offset : Nat} {item : Value}
    (found : items[offset]? = some item) (zero : offset = 0) : ∃ rest, items = item :: rest := by
  subst zero
  cases items with
  | nil => simp at found
  | cons first rest =>
    simp only [List.getElem?_cons_zero, Option.some.injEq] at found
    exact ⟨rest, by rw [found]⟩

/-! ### TLS and SASL settings, from a document and from a buffer -/

theorem decodeTls_buffered_of_document {value : Value} {tls : TlsSettings}
    (decoded : decodeTls .document value = .ok tls) : decodeTls .buffered value = .ok tls :=
  decodeRecord_transfer (fun _ _ => True) (fun _ _ _ _ field => field) (by simp)
    (fun _ _ _ _ _ _ _ => trivial) (fun _ _ _ _ _ => trivial) decoded

theorem decodeTls_document_of_buffered {value : Value} {tls : TlsSettings}
    (decoded : decodeTls .buffered value = .ok tls) : decodeTls .document value = .ok tls :=
  decodeRecord_transfer (fun _ _ => True) (fun _ _ _ _ field => field) (by simp)
    (fun _ _ _ _ _ _ _ => trivial) (fun _ _ _ _ _ => trivial) decoded

theorem saslField_buffered {index : Nat} {item : Value} (notEmpty : index = 0 → ¬ UnitAsEmptyMap item) :
    saslField .buffered index item = saslField .document index item := by
  cases index with
  | zero => rw [saslField, saslField, setWith, setWith, decodeMechanism_buffered (notEmpty rfl)]
  | succ index => cases index <;> rfl

theorem saslField_buffered_of_document {index : Nat} {item : Value}
    {update : SaslSettings → SaslSettings} (decoded : saslField .document index item = .ok update) :
    saslField .buffered index item = .ok update := by
  rw [saslField_buffered]
  · exact decoded
  · rintro rfl written
    obtain ⟨error, refused⟩ := decodeMechanism_document_of_unitAsEmptyMap written
    simp [saslField, setWith, refused, Except.map] at decoded

theorem decodeSasl_buffered_of_document {value : Value} {sasl : SaslSettings}
    (decoded : decodeSasl .document value = .ok sasl) : decodeSasl .buffered value = .ok sasl :=
  decodeRecord_transfer (fun _ _ => True)
    (fun _ _ _ _ field => saslField_buffered_of_document field) (by simp)
    (fun _ _ _ _ _ _ _ => trivial) (fun _ _ _ _ _ => trivial) decoded

theorem decodeSasl_document_of_buffered {value : Value} {sasl : SaslSettings}
    (notEmpty : ¬ MechanismAsEmptyMap value) (decoded : decodeSasl .buffered value = .ok sasl) :
    decodeSasl .document value = .ok sasl := by
  refine decodeRecord_transfer (fun index item => index = 0 → ¬ UnitAsEmptyMap item)
    (fun _ _ _ good field => saslField_buffered good ▸ field) (by simp) ?_ ?_ decoded
  · rintro members rfl key item index member found rfl written
    have mechanism : key = "mechanism" := RecordShape.key_eq_of_fieldIndex? rfl rfl found
    subst mechanism
    exact notEmpty (.inl ⟨members, item, rfl, member, written⟩)
  · rintro items rfl offset item found zero written
    obtain ⟨rest, rfl⟩ := placed_zero found zero
    exact notEmpty (.inr ⟨item, rest, rfl, written⟩)

/-! ### Client settings, from a document and from a buffer -/

theorem clientField_buffered_of_document {index : Nat} {item : Value}
    {update : ClientSettings → ClientSettings} (decoded : clientField .document index item = .ok update) :
    clientField .buffered index item = .ok update := by
  match index with
  | 0 | 1 | 2 => exact decoded
  | 3 => exact setWith_transfer (fun _ => decodeOptional_transfer
      fun _ _ => decodeTls_buffered_of_document) decoded
  | 4 => exact setWith_transfer (fun _ => decodeOptional_transfer
      fun _ _ => decodeSasl_buffered_of_document) decoded
  | _ + 5 => exact decoded

theorem clientField_document_of_buffered {index : Nat} {item : Value}
    {update : ClientSettings → ClientSettings} (notEmpty : index = 4 → ¬ MechanismAsEmptyMap item)
    (decoded : clientField .buffered index item = .ok update) :
    clientField .document index item = .ok update := by
  match index with
  | 0 | 1 | 2 => exact decoded
  | 3 => exact setWith_transfer (fun _ => decodeOptional_transfer
      fun _ _ => decodeTls_document_of_buffered) decoded
  | 4 => exact setWith_transfer (fun _ => decodeOptional_transfer
      fun _ _ => decodeSasl_document_of_buffered (notEmpty rfl)) decoded
  | _ + 5 => exact decoded

theorem decodeClientMembers_buffered_of_document {state result : ClientSettings} {seen : List Nat}
    {members : List (String × Value)}
    (decoded : decodeMembers .document clientShape (clientField .document) state seen members = .ok result) :
    decodeMembers .buffered clientShape (clientField .buffered) state seen members = .ok result :=
  decodeMembers_transfer (fun _ _ => True) (fun _ _ _ _ field => clientField_buffered_of_document field)
    (fun _ _ _ _ _ => trivial) decoded

theorem decodeMembers_filter {σ : Type} {source : Source} {shape : RecordShape}
    {decodeField : Nat → Value → Except DecodeError (σ → σ)} {keep : String × Value → Bool}
    {state : σ} {seen : List Nat} {members : List (String × Value)}
    (unnamed : ∀ member ∈ members, keep member = false → shape.fieldIndex? member.1 = none) :
    decodeMembers source shape decodeField state seen (members.filter keep) =
      decodeMembers source shape decodeField state seen members := by
  induction members generalizing state seen with
  | nil => rfl
  | cons member rest ih =>
    obtain ⟨key, item⟩ := member
    have unnamedRest := fun member inRest => unnamed member (List.mem_cons_of_mem _ inRest)
    by_cases kept : keep (key, item) = true
    · rw [List.filter_cons_of_pos kept]
      cases found : shape.fieldIndex? key with
      | none => rw [decodeMembers_unknown _ found, decodeMembers_unknown _ found, ih unnamedRest]
      | some index =>
        simp only [decodeMembers, found]
        split
        · rfl
        · split <;> first | rfl | exact ih unnamedRest
    · rw [List.filter_cons_of_neg kept,
        decodeMembers_unknown rest (unnamed _ List.mem_cons_self (by simpa using kept)), ih unnamedRest]

/-! ### The timeouts -/

def TimeoutReadable : Value → Prop
  | .null => True
  | .string text => ∃ duration, Duration.readHuman text = .value duration
  | _ => False

def TimeoutsReadable (document : Value) : Prop :=
  ∀ key item, document.canonical.field? key = some item →
    key = "request_timeout" ∨ key = "operation_timeout" → TimeoutReadable item

theorem timeoutReadable_iff {item : Value} :
    TimeoutReadable item ↔ ∃ duration, decodeOptional (decodeDuration .document) item = .ok duration := by
  cases item with
  | null => simp [TimeoutReadable, decodeOptional]
  | string text =>
    cases reading : Duration.readHuman text <;>
      simp [TimeoutReadable, decodeOptional, decodeDuration, readDuration, reading, Except.map]
  | _ => simp [TimeoutReadable, decodeOptional, decodeDuration, Except.map]

theorem managerShape_named {key : String} {index : Nat} (found : managerShape.fieldIndex? key = some index) :
    (index = 0 ∧ key = "request_timeout") ∨ (index = 1 ∧ key = "operation_timeout") := by
  have below : index < 2 := fieldIndex?_lt found
  rcases index with _ | _ | index
  · exact .inl ⟨rfl, RecordShape.key_eq_of_fieldIndex? rfl rfl found⟩
  · exact .inr ⟨rfl, RecordShape.key_eq_of_fieldIndex? rfl rfl found⟩
  · omega

theorem managerShape_key_eq {first second : String} {index : Nat}
    (firstFound : managerShape.fieldIndex? first = some index)
    (secondFound : managerShape.fieldIndex? second = some index) : first = second := by
  rcases managerShape_named firstFound with ⟨rfl, rfl⟩ | ⟨rfl, rfl⟩ <;>
    rcases managerShape_named secondFound with ⟨same, rfl⟩ | ⟨same, rfl⟩ <;>
      first | rfl | omega

theorem clientShape_fieldIndex?_of_timeout {key : String} {index : Nat}
    (found : managerShape.fieldIndex? key = some index) : clientShape.fieldIndex? key = none := by
  rcases managerShape_named found with ⟨-, rfl⟩ | ⟨-, rfl⟩ <;> rfl

theorem collectTimeouts_ok {source : Source} {settings : ManagerSettings} {seen : List Nat}
    {kept entries : List (String × Value)} {result : ManagerSettings × List (String × Value)}
    (collected : collectTimeouts source settings seen kept entries = .ok result) :
    result.2 = kept.reverse ++ entries.filter (fun member => (managerShape.fieldIndex? member.1).isNone) ∧
    ∀ key item index, (key, item) ∈ entries → managerShape.fieldIndex? key = some index →
      ∃ duration, decodeOptional (decodeDuration source) item = .ok duration := by
  induction entries generalizing settings seen kept with
  | nil =>
    simp only [collectTimeouts, Except.ok.injEq] at collected
    subst collected
    simp
  | cons entry rest ih =>
    obtain ⟨key, item⟩ := entry
    cases found : managerShape.fieldIndex? key with
    | none =>
      simp only [collectTimeouts, found] at collected
      obtain ⟨keptRest, reads⟩ := ih collected
      refine ⟨by simp [keptRest, found], ?_⟩
      intro other otherItem index member named
      rcases List.mem_cons.mp member with same | inRest
      · cases same
        simp [found] at named
      · exact reads other otherItem index inRest named
    | some index =>
      simp only [collectTimeouts, found] at collected
      split at collected
      · cases collected
      · cases timeout : decodeOptional (decodeDuration source) item with
        | error error => simp [timeout] at collected
        | ok duration =>
          simp only [timeout] at collected
          obtain ⟨keptRest, reads⟩ := ih collected
          refine ⟨by simp [keptRest, found], ?_⟩
          intro other otherItem otherIndex member named
          rcases List.mem_cons.mp member with same | inRest
          · cases same
            exact ⟨duration, timeout⟩
          · exact reads other otherItem otherIndex inRest named

theorem collectTimeouts_of_reads {source : Source} {settings : ManagerSettings} {seen : List Nat}
    {kept entries : List (String × Value)} (ascending : Value.KeysAscending entries)
    (fresh : ∀ key item index, (key, item) ∈ entries → managerShape.fieldIndex? key = some index →
      index ∉ seen)
    (reads : ∀ key item index, (key, item) ∈ entries → managerShape.fieldIndex? key = some index →
      ∃ duration, decodeOptional (decodeDuration source) item = .ok duration) :
    ∃ timeouts, collectTimeouts source settings seen kept entries =
      .ok (timeouts, kept.reverse ++
        entries.filter fun member => (managerShape.fieldIndex? member.1).isNone) := by
  induction entries generalizing settings seen kept with
  | nil => exact ⟨settings, by simp [collectTimeouts]⟩
  | cons entry rest ih =>
    obtain ⟨key, item⟩ := entry
    rw [Value.KeysAscending, List.pairwise_cons] at ascending
    have readsRest := fun key item index (inRest : (key, item) ∈ rest) =>
      reads key item index (List.mem_cons_of_mem _ inRest)
    have freshRest := fun key item index (inRest : (key, item) ∈ rest) =>
      fresh key item index (List.mem_cons_of_mem _ inRest)
    cases found : managerShape.fieldIndex? key with
    | none =>
      simp only [collectTimeouts, found, List.filter_cons, Option.isNone_none, if_true]
      obtain ⟨timeouts, collected⟩ : ∃ timeouts,
          collectTimeouts source settings seen ((key, item) :: kept) rest =
            .ok (timeouts, ((key, item) :: kept).reverse ++
              rest.filter fun member => (managerShape.fieldIndex? member.1).isNone) :=
        ih ascending.2 freshRest readsRest
      exact ⟨timeouts, by simpa using collected⟩
    | some index =>
      have notSeen := fresh key item index List.mem_cons_self found
      obtain ⟨duration, timeout⟩ := reads key item index List.mem_cons_self found
      have freshAfter : ∀ other otherItem otherIndex, (other, otherItem) ∈ rest →
          managerShape.fieldIndex? other = some otherIndex → otherIndex ∉ index :: seen := by
        intro other otherItem otherIndex inRest otherFound named
        rcases List.mem_cons.mp named with same | seenBefore
        · subst same
          have sameKey : key = other := managerShape_key_eq found otherFound
          exact lt_irrefl _ (sameKey ▸ ascending.1 _ inRest)
        · exact freshRest other otherItem otherIndex inRest otherFound seenBefore
      simp only [collectTimeouts, found, timeout, List.contains_iff_mem, notSeen, if_false,
        List.filter_cons, Option.isNone_some]
      exact ih ascending.2 freshAfter readsRest

/-! ### Manager settings from a JSON object -/

theorem decodeManager_ok {source : Source} {entries : List (String × Value)}
    {settings : ManagerSettings} :
    decodeManager source (.object entries) = .ok settings ↔
      ∃ timeouts kept client, collectTimeouts source {} [] [] entries = .ok (timeouts, kept) ∧
        decodeMembers .buffered clientShape (clientField .buffered) {} [] kept = .ok client ∧
        settings = { timeouts with client } := by
  rw [decodeManager]
  cases collected : collectTimeouts source {} [] [] entries with
  | error error =>
    constructor
    · intro decoded
      cases decoded
    · rintro ⟨_, _, _, found, -⟩
      cases found
  | ok pair =>
    obtain ⟨timeouts, kept⟩ := pair
    simp only [bind, Except.bind, pure, Except.pure]
    cases read : decodeMembers .buffered clientShape (clientField .buffered) {} [] kept with
    | error error => simp [read]
    | ok client => simpa [read] using eq_comm

theorem decodeMembers_without_timeouts {source : Source} {state : ClientSettings} {seen : List Nat}
    {entries : List (String × Value)} :
    decodeMembers source clientShape (clientField source) state seen
        (entries.filter fun member => (managerShape.fieldIndex? member.1).isNone) =
      decodeMembers source clientShape (clientField source) state seen entries := by
  refine decodeMembers_filter fun member _ dropped => ?_
  cases found : managerShape.fieldIndex? member.1 with
  | none => simp [found] at dropped
  | some index => exact clientShape_fieldIndex?_of_timeout found

theorem timeoutsReadable_iff {members entries : List (String × Value)}
    (canonical : (Value.object members).canonical = .object entries)
    (ascending : Value.KeysAscending entries) :
    TimeoutsReadable (.object members) ↔
      ∀ key item index, (key, item) ∈ entries → managerShape.fieldIndex? key = some index →
        ∃ duration, decodeOptional (decodeDuration .document) item = .ok duration := by
  constructor
  · intro readable key item index member found
    have named := (managerShape_named found).imp (fun timeout => timeout.2) (fun timeout => timeout.2)
    refine timeoutReadable_iff.mp (readable key item ?_ named)
    rw [canonical]
    exact Value.field?_of_mem ascending.keys_nodup member
  · intro reads key item found named
    rw [canonical] at found
    have indexFound : ∃ index, managerShape.fieldIndex? key = some index := by
      rcases named with rfl | rfl
      · exact ⟨0, rfl⟩
      · exact ⟨1, rfl⟩
    obtain ⟨index, indexFound⟩ := indexFound
    exact timeoutReadable_iff.mpr (reads key item index (Value.mem_of_field? found) indexFound)

/-- Reading a JSON object as manager settings and reading it directly as client settings agree.
When it reads as client settings and its timeouts read, it reads as manager settings holding the
same client settings. When it reads as manager settings, its timeouts read, and it reads directly
as the same client settings unless its SASL mechanism is written as a map from the mechanism's
name to an empty map, a unit that only the buffer of a flattened record accepts. -/
theorem managerOfDocument_agrees (members : List (String × Value)) :
    (∀ client, clientOfDocument (.object members) = .ok client →
      TimeoutsReadable (.object members) →
      ∃ settings, managerOfDocument (.object members) = .ok settings ∧ settings.client = client) ∧
    ∀ settings, managerOfDocument (.object members) = .ok settings →
      TimeoutsReadable (.object members) ∧
      (¬ SaslMechanismAsEmptyMap (.object members) →
        clientOfDocument (.object members) = .ok settings.client) := by
  obtain ⟨entries, canonical, ascending⟩ : ∃ entries,
      (Value.object members).canonical = .object entries ∧ Value.KeysAscending entries :=
    ⟨_, Value.canonical_object members, Value.keyedMembers_ascending _⟩
  have direct : clientOfDocument (.object members) =
      decodeMembers .document clientShape (clientField .document) {} [] entries := by
    rw [clientOfDocument, canonical]
    rfl
  have flattened : managerOfDocument (.object members) = decodeManager .document (.object entries) := by
    rw [managerOfDocument, canonical]
  set kept := entries.filter fun member => (managerShape.fieldIndex? member.1).isNone with keptEq
  have buffered : decodeMembers .buffered clientShape (clientField .buffered) {} [] kept =
      decodeMembers .buffered clientShape (clientField .buffered) {} [] entries :=
    decodeMembers_without_timeouts
  have readable := timeoutsReadable_iff canonical ascending
  refine ⟨fun client decoded timeoutsRead => ?_, fun settings decoded => ?_⟩
  · rw [direct] at decoded
    obtain ⟨timeouts, collected⟩ : ∃ timeouts, collectTimeouts .document {} [] [] entries =
        .ok (timeouts, [].reverse ++ kept) :=
      collectTimeouts_of_reads ascending (fun _ _ _ _ _ => List.not_mem_nil) (readable.mp timeoutsRead)
    have clientRead : decodeMembers .buffered clientShape (clientField .buffered) {} [] kept = .ok client :=
      buffered.trans (decodeClientMembers_buffered_of_document decoded)
    refine ⟨{ timeouts with client }, ?_, rfl⟩
    rw [flattened]
    exact decodeManager_ok.mpr ⟨timeouts, kept, client, collected, clientRead, rfl⟩
  · rw [flattened] at decoded
    obtain ⟨timeouts, keptRead, client, collected, clientRead, rfl⟩ := decodeManager_ok.mp decoded
    obtain ⟨keptRead_eq, reads⟩ := collectTimeouts_ok collected
    simp only [List.reverse_nil, List.nil_append] at keptRead_eq
    rw [keptRead_eq, ← keptEq, buffered] at clientRead
    refine ⟨readable.mpr reads, fun notEmpty => ?_⟩
    rw [direct]
    refine decodeMembers_transfer (fun index item => index = 4 → ¬ MechanismAsEmptyMap item)
      (fun _ _ _ good field => clientField_document_of_buffered good field) ?_ clientRead
    rintro key item index member found rfl mechanism
    have sasl : key = "sasl" := RecordShape.key_eq_of_fieldIndex? rfl rfl found
    subst sasl
    refine notEmpty ⟨item, ?_, mechanism⟩
    rw [canonical]
    exact Value.field?_of_mem ascending.keys_nodup member

/-- A SASL mechanism written as a map from its name to an empty map: read as manager settings
the document gives client settings with that mechanism, read directly as client settings it is
refused. -/
theorem managerOfDocument_reads_unit_map :
    managerOfDocument (.object [("bootstrap_servers", .string "kafka:9092"),
        ("sasl", .object [("mechanism", .object [("PLAIN", .object [])]),
          ("password", .string "p"), ("username", .string "u")])]) =
      .ok { client := { bootstrapServers := "kafka:9092",
                        sasl := some { username := "u", password := "p" } } } ∧
    clientOfDocument (.object [("bootstrap_servers", .string "kafka:9092"),
        ("sasl", .object [("mechanism", .object [("PLAIN", .object [])]),
          ("password", .string "p"), ("username", .string "u")])]) =
      .error (.invalidType .map "unit") := by
  have inner : Value.KeysAscending [("mechanism", Value.object [("PLAIN", .object [])]),
      ("password", .string "p"), ("username", .string "u")] := by
    unfold Value.KeysAscending
    decide
  have outer : Value.KeysAscending [("bootstrap_servers", Value.string "kafka:9092"),
      ("sasl", .object [("mechanism", .object [("PLAIN", .object [])]),
        ("password", .string "p"), ("username", .string "u")])] := by
    unfold Value.KeysAscending
    decide
  have unit : Value.keyedMembers [("PLAIN", Value.object (Value.keyedMembers []))] =
      [("PLAIN", .object [])] := rfl
  simp only [managerOfDocument, clientOfDocument, Value.canonical_object, List.map_cons, List.map_nil,
    Value.canonical_string, unit, Value.keyedMembers_of_ascending inner,
    Value.keyedMembers_of_ascending outer]
  exact ⟨rfl, rfl⟩

end Decode

end TopicLifecycle
