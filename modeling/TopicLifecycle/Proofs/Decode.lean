import Mathlib.Data.String.Basic
import TopicLifecycle.Decode.Tree

/-!
What decoding a record gives: each field is set by the one member that names it, or keeps its
initial value.
-/

namespace TopicLifecycle

namespace Json.Value

theorem canonical_object (members : List (String × Value)) :
    (Value.object members).canonical =
      .object (keyedMembers (members.map fun member => (member.1, member.2.canonical))) := by
  rw [canonical]
  simp only [Value.object.injEq]
  exact congrArg keyedMembers
    (List.attach_map_val (f := fun member : String × Value => (member.1, member.2.canonical)))

@[simp] theorem canonical_string (text : String) : (Value.string text).canonical = .string text := by
  simp [canonical]

@[simp] theorem canonical_bool (flag : Bool) : (Value.bool flag).canonical = .bool flag := by
  simp [canonical]

def KeysAscending (members : List (String × Value)) : Prop :=
  members.Pairwise fun first second => first.1 < second.1

theorem KeysAscending.keys_nodup {members : List (String × Value)} (ascending : KeysAscending members) :
    (members.map Prod.fst).Nodup :=
  List.pairwise_map.mpr (ascending.imp ne_of_lt)

theorem KeysAscending.nodup {members : List (String × Value)} (ascending : KeysAscending members) :
    members.Nodup :=
  ascending.imp fun below same => ne_of_lt below (congrArg Prod.fst same)

theorem mem_insertMember {key : String} {value : Value} {members : List (String × Value)}
    (ascending : KeysAscending members) {member : String × Value} :
    member ∈ insertMember key value members ↔
      member = (key, value) ∨ (member ∈ members ∧ member.1 ≠ key) := by
  induction members with
  | nil => simp [insertMember]
  | cons first rest ih =>
    obtain ⟨existing, old⟩ := first
    rw [KeysAscending, List.pairwise_cons] at ascending
    have later : ∀ other ∈ rest, existing < other.1 := fun other member => ascending.1 other member
    unfold insertMember
    split
    · next below =>
      have above : ∀ other ∈ (existing, old) :: rest, key < other.1 := by
        intro other member
        rcases List.mem_cons.mp member with rfl | inRest
        · exact below
        · exact lt_trans below (later other inRest)
      constructor
      · intro member
        rcases List.mem_cons.mp member with rfl | inMembers
        · exact .inl rfl
        · exact .inr ⟨inMembers, (ne_of_lt (above _ inMembers)).symm⟩
      · rintro (rfl | ⟨inMembers, -⟩)
        · exact List.mem_cons_self
        · exact List.mem_cons_of_mem _ inMembers
    · split
      · next same =>
        subst same
        simp only [List.mem_cons]
        constructor
        · rintro (rfl | inRest)
          · exact .inl rfl
          · exact .inr ⟨.inr inRest, (ne_of_lt (later _ inRest)).symm⟩
        · rintro (rfl | ⟨rfl | inRest, differs⟩)
          · exact .inl rfl
          · exact absurd rfl differs
          · exact .inr inRest
      · next notBelow differs =>
        simp only [List.mem_cons, ih ascending.2]
        constructor
        · rintro (rfl | rfl | ⟨inRest, other⟩)
          · exact .inr ⟨.inl rfl, Ne.symm differs⟩
          · exact .inl rfl
          · exact .inr ⟨.inr inRest, other⟩
        · rintro (rfl | ⟨rfl | inRest, other⟩)
          · exact .inr (.inl rfl)
          · exact .inl rfl
          · exact .inr (.inr ⟨inRest, other⟩)

theorem insertMember_ascending {key : String} {value : Value} {members : List (String × Value)}
    (ascending : KeysAscending members) : KeysAscending (insertMember key value members) := by
  induction members with
  | nil => exact List.pairwise_singleton _ _
  | cons first rest ih =>
    obtain ⟨existing, old⟩ := first
    have split := ascending
    rw [KeysAscending, List.pairwise_cons] at split
    unfold insertMember
    split
    · next below =>
      refine List.Pairwise.cons ?_ ascending
      intro other member
      rcases List.mem_cons.mp member with rfl | inRest
      · exact below
      · exact lt_trans below (split.1 other inRest)
    · split
      · next same =>
        subst same
        exact List.Pairwise.cons split.1 split.2
      · next notBelow differs =>
        refine List.Pairwise.cons ?_ (ih split.2)
        intro other member
        rcases (mem_insertMember split.2).mp member with rfl | ⟨inRest, -⟩
        · exact lt_of_le_of_ne (not_lt.mp notBelow) (Ne.symm differs)
        · exact split.1 other inRest

theorem keyedMembers_ascending (members : List (String × Value)) :
    KeysAscending (keyedMembers members) := by
  unfold keyedMembers
  generalize emptyAscending : ([] : List (String × Value)) = start
  have ascending : KeysAscending start := emptyAscending ▸ List.Pairwise.nil
  clear emptyAscending
  induction members generalizing start with
  | nil => exact ascending
  | cons first rest ih => exact ih _ (insertMember_ascending ascending)

theorem mem_keyedMembers {members : List (String × Value)} (distinct : (members.map Prod.fst).Nodup)
    {member : String × Value} : member ∈ keyedMembers members ↔ member ∈ members := by
  -- the members inserted so far are kept unless a later member has their key
  suffices folded : ∀ start : List (String × Value), KeysAscending start →
      (member ∈ members.foldl (fun sorted entry => insertMember entry.1 entry.2 sorted) start ↔
        (member ∈ start ∧ member.1 ∉ members.map Prod.fst) ∨ member ∈ members) by
    have keyed : keyedMembers members =
        members.foldl (fun sorted entry => insertMember entry.1 entry.2 sorted) [] := rfl
    rw [keyed]
    simpa using folded [] List.Pairwise.nil
  induction members with
  | nil => simp
  | cons first rest ih =>
    intro start ascending
    obtain ⟨key, value⟩ := first
    rw [List.map_cons, List.nodup_cons] at distinct
    rw [List.foldl_cons]
    rw [ih distinct.2 _ (insertMember_ascending ascending), mem_insertMember ascending]
    simp only [List.map_cons, List.mem_cons, not_or]
    constructor
    · rintro (⟨rfl | ⟨inStart, other⟩, absent⟩ | inRest)
      · exact .inr (.inl rfl)
      · exact .inl ⟨inStart, other, absent⟩
      · exact .inr (.inr inRest)
    · rintro (⟨inStart, other, absent⟩ | rfl | inRest)
      · exact .inl ⟨.inr ⟨inStart, other⟩, absent⟩
      · exact .inl ⟨.inl rfl, distinct.1⟩
      · exact .inr inRest

theorem keyedMembers_of_ascending {members : List (String × Value)}
    (ascending : KeysAscending members) : keyedMembers members = members := by
  have keyed := keyedMembers_ascending members
  refine List.Perm.eq_of_pairwise ?_ keyed ascending ?_
  · intro first second _ _ below above
    exact absurd (lt_trans below above) (lt_irrefl _)
  · rw [List.perm_ext_iff_of_nodup keyed.nodup ascending.nodup]
    intro member
    exact mem_keyedMembers ascending.keys_nodup

end Json.Value

namespace Decode

open Json Settings

theorem setWith_ok {α σ : Type} {decode : Value → Except DecodeError α} {set : α → σ → σ}
    {value : Value} {update : σ → σ} :
    setWith decode set value = .ok update ↔ ∃ decoded, decode value = .ok decoded ∧ set decoded = update := by
  unfold setWith
  cases decode value <;> simp [Except.map]

/-! ### The members of a record -/

section Members

variable {σ β : Type} {source : Source} {shape : RecordShape}
  {decodeField : Nat → Value → Except DecodeError (σ → σ)}

theorem decodeRecord_object (initial : σ) (members : List (String × Value)) :
    decodeRecord source shape initial decodeField (.object members) =
      decodeMembers source shape decodeField initial [] members := rfl

theorem decodeMembers_nil {state : σ} {seen : List Nat} (complete : shape.firstMissing? seen = none) :
    decodeMembers source shape decodeField state seen [] = .ok state := by
  simp [decodeMembers, complete]

theorem decodeMembers_unknown {state : σ} {seen : List Nat} {key : String} {item : Value}
    (rest : List (String × Value)) (unknown : shape.fieldIndex? key = none) :
    decodeMembers source shape decodeField state seen ((key, item) :: rest) =
      decodeMembers source shape decodeField state seen rest := by
  simp [decodeMembers, unknown]

theorem decodeMembers_known {state : σ} {seen : List Nat} {key : String} {item : Value}
    {index : Nat} {update : σ → σ} (rest : List (String × Value))
    (found : shape.fieldIndex? key = some index) (fresh : index ∉ seen)
    (decoded : decodeField index item = .ok update) :
    decodeMembers source shape decodeField state seen ((key, item) :: rest) =
      decodeMembers source shape decodeField (update state) (index :: seen) rest := by
  simp [decodeMembers, found, fresh, decoded]

theorem decodeMembers_cons_ok {state result : σ} {seen : List Nat} {key : String} {item : Value}
    {rest : List (String × Value)}
    (decoded : decodeMembers source shape decodeField state seen ((key, item) :: rest) = .ok result) :
    (shape.fieldIndex? key = none ∧
      decodeMembers source shape decodeField state seen rest = .ok result) ∨
    ∃ index update, shape.fieldIndex? key = some index ∧ index ∉ seen ∧
      decodeField index item = .ok update ∧
      decodeMembers source shape decodeField (update state) (index :: seen) rest = .ok result := by
  cases found : shape.fieldIndex? key with
  | none => exact .inl ⟨rfl, by rwa [decodeMembers_unknown rest found] at decoded⟩
  | some index =>
    by_cases named : index ∈ seen
    · simp [decodeMembers, found, named] at decoded
    · cases field : decodeField index item with
      | error error => simp [decodeMembers, found, named, field] at decoded
      | ok update =>
        rw [decodeMembers_known rest found named field] at decoded
        exact .inr ⟨index, update, rfl, named, field, decoded⟩

theorem decodeMembers_fresh {state result : σ} {seen : List Nat} {members : List (String × Value)}
    (decoded : decodeMembers source shape decodeField state seen members = .ok result)
    {key : String} {item : Value} {index : Nat} (member : (key, item) ∈ members)
    (found : shape.fieldIndex? key = some index) : index ∉ seen := by
  induction members generalizing state seen with
  | nil => exact absurd member List.not_mem_nil
  | cons first rest ih =>
    obtain ⟨firstKey, firstItem⟩ := first
    rcases decodeMembers_cons_ok decoded with ⟨unknown, later⟩ | ⟨other, update, otherFound, fresh, -, later⟩
    · rcases List.mem_cons.mp member with same | inRest
      · cases same
        simp [found] at unknown
      · exact ih later inRest
    · rcases List.mem_cons.mp member with same | inRest
      · cases same
        rw [found, Option.some.injEq] at otherFound
        rw [otherFound]
        exact fresh
      · exact fun seenBefore => ih later inRest (List.mem_cons_of_mem _ seenBefore)

/-- Field `index` of a record read from `members`: every member that names it decodes to `value`,
and `value` is the initial one when no member names it. -/
def FieldFrom (shape : RecordShape) (members : List (String × Value)) (index : Nat)
    (decodes : Value → β → Prop) (initial value : β) : Prop :=
  (∀ key item, (key, item) ∈ members → shape.fieldIndex? key = some index → decodes item value) ∧
  ((∀ key item, (key, item) ∈ members → shape.fieldIndex? key ≠ some index) → value = initial)

section Field

variable {proj : σ → β} {index : Nat} {decodes : Value → β → Prop}
  (others : ∀ key other item update, shape.fieldIndex? key = some other → other ≠ index →
    decodeField other item = .ok update → ∀ state, proj (update state) = proj state)
include others

theorem decodeMembers_unnamed {state result : σ} {seen : List Nat}
    {members : List (String × Value)}
    (decoded : decodeMembers source shape decodeField state seen members = .ok result)
    (unnamed : ∀ key item, (key, item) ∈ members → shape.fieldIndex? key ≠ some index) :
    proj result = proj state := by
  induction members generalizing state seen with
  | nil =>
    simp only [decodeMembers] at decoded
    split at decoded
    · cases decoded
    · cases decoded
      rfl
  | cons first rest ih =>
    obtain ⟨key, item⟩ := first
    have unnamedRest := fun key item (inRest : (key, item) ∈ rest) =>
      unnamed key item (List.mem_cons_of_mem _ inRest)
    rcases decodeMembers_cons_ok decoded with ⟨-, later⟩ | ⟨other, update, found, -, field, later⟩
    · exact ih later unnamedRest
    · have differs : other ≠ index := fun same =>
        unnamed key item List.mem_cons_self (same ▸ found)
      rw [ih later unnamedRest]
      exact others key other item update found differs field state

theorem decodeMembers_fieldFrom
    (own : ∀ item update, decodeField index item = .ok update →
      ∃ value, decodes item value ∧ ∀ state, proj (update state) = value)
    {state result : σ} {seen : List Nat} {members : List (String × Value)}
    (decoded : decodeMembers source shape decodeField state seen members = .ok result) :
    FieldFrom shape members index decodes (proj state) (proj result) := by
  refine ⟨?_, decodeMembers_unnamed others decoded⟩
  induction members generalizing state seen with
  | nil => intro key item member; exact absurd member List.not_mem_nil
  | cons first rest ih =>
    obtain ⟨firstKey, firstItem⟩ := first
    intro key item member named
    rcases decodeMembers_cons_ok decoded with ⟨unknown, later⟩ | ⟨other, update, found, -, field, later⟩
    · rcases List.mem_cons.mp member with same | inRest
      · cases same
        simp [named] at unknown
      · exact ih later key item inRest named
    · by_cases isField : other = index
      · subst isField
        obtain ⟨value, decodesTo, setsTo⟩ := own firstItem update field
        have unnamedRest : ∀ key item, (key, item) ∈ rest → shape.fieldIndex? key ≠ some other :=
          fun key item inRest again => decodeMembers_fresh later inRest again List.mem_cons_self
        have kept := decodeMembers_unnamed others later unnamedRest
        rw [kept, setsTo]
        rcases List.mem_cons.mp member with same | inRest
        · cases same
          exact decodesTo
        · exact absurd named (unnamedRest key item inRest)
      · rcases List.mem_cons.mp member with same | inRest
        · cases same
          rw [found, Option.some.injEq] at named
          exact absurd named isField
        · exact ih later key item inRest named

end Field

/-- Members decode when each one that names a field decodes, no two name the same field, none
names a field already seen, and no required field is missing once they are all read. -/
theorem decodeMembers_ok {members : List (String × Value)}
    (decodes : ∀ key item index, (key, item) ∈ members → shape.fieldIndex? key = some index →
      ∃ update, decodeField index item = .ok update)
    (distinct : members.Pairwise fun first second =>
      ∀ index, shape.fieldIndex? first.1 = some index → shape.fieldIndex? second.1 ≠ some index)
    {state : σ} {seen : List Nat}
    (fresh : ∀ key item index, (key, item) ∈ members → shape.fieldIndex? key = some index →
      index ∉ seen)
    (complete : ∀ read : List Nat, (∀ index ∈ seen, index ∈ read) →
      (∀ key item index, (key, item) ∈ members → shape.fieldIndex? key = some index →
        index ∈ read) → shape.firstMissing? read = none) :
    ∃ result, decodeMembers source shape decodeField state seen members = .ok result := by
  induction members generalizing state seen with
  | nil =>
    exact ⟨state, decodeMembers_nil (complete seen (fun _ seenBefore => seenBefore)
      (fun _ _ _ member => absurd member List.not_mem_nil))⟩
  | cons member rest ih =>
    obtain ⟨key, item⟩ := member
    rw [List.pairwise_cons] at distinct
    have decodesRest := fun key item index (inRest : (key, item) ∈ rest) =>
      decodes key item index (List.mem_cons_of_mem _ inRest)
    cases found : shape.fieldIndex? key with
    | none =>
      rw [decodeMembers_unknown rest found]
      refine ih decodesRest distinct.2
        (fun key item index inRest => fresh key item index (List.mem_cons_of_mem _ inRest))
        (fun read seenRead restRead => complete read seenRead ?_)
      intro otherKey otherItem index member otherFound
      rcases List.mem_cons.mp member with same | inRest
      · cases same
        simp [found] at otherFound
      · exact restRead otherKey otherItem index inRest otherFound
    | some index =>
      obtain ⟨update, field⟩ := decodes key item index List.mem_cons_self found
      rw [decodeMembers_known rest found (fresh key item index List.mem_cons_self found) field]
      refine ih decodesRest distinct.2 ?_ ?_
      · intro otherKey otherItem other inRest otherFound named
        rcases List.mem_cons.mp named with same | seenBefore
        · rw [same] at otherFound
          exact distinct.1 (otherKey, otherItem) inRest index found otherFound
        · exact fresh otherKey otherItem other (List.mem_cons_of_mem _ inRest) otherFound seenBefore
      · intro read seenRead restRead
        refine complete read (fun other seenBefore => seenRead other (List.mem_cons_of_mem _ seenBefore)) ?_
        intro otherKey otherItem other member otherFound
        rcases List.mem_cons.mp member with same | inRest
        · cases same
          rw [found, Option.some.injEq] at otherFound
          rw [← otherFound]
          exact seenRead index List.mem_cons_self
        · exact restRead otherKey otherItem other inRest otherFound

end Members

section Read

variable {β : Type} {shape : RecordShape} {members : List (String × Value)} {index : Nat}
  {decode : Value → Except DecodeError β} {initial value : β}

theorem FieldFrom.eq_of_member
    (fieldFrom : FieldFrom shape members index (fun item value => decode item = .ok value) initial value)
    {key : String} {item : Value} {expected : β} (member : (key, item) ∈ members)
    (found : shape.fieldIndex? key = some index) (decoded : decode item = .ok expected) :
    value = expected := by
  have decodesTo : decode item = .ok value := fieldFrom.1 key item member found
  rw [decoded, Except.ok.injEq] at decodesTo
  exact decodesTo.symm

theorem FieldFrom.eq_of_unnamed {decodes : Value → β → Prop}
    (fieldFrom : FieldFrom shape members index decodes initial value)
    (unnamed : ∀ key item, (key, item) ∈ members → shape.fieldIndex? key ≠ some index) :
    value = initial :=
  fieldFrom.2 unnamed

end Read

structure Written (shape : RecordShape) (members : List (String × Value)) : Prop where
  named : ∀ key item, (key, item) ∈ members →
    ∃ index, shape.fieldIndex? key = some index ∧ shape.fieldName index = key
  keys_nodup : (members.map Prod.fst).Nodup

theorem Written.name_eq {shape : RecordShape} {members : List (String × Value)}
    (written : Written shape members) {key : String} {item : Value} {index : Nat}
    (member : (key, item) ∈ members) (found : shape.fieldIndex? key = some index) :
    shape.fieldName index = key := by
  obtain ⟨named, namedFound, name⟩ := written.named key item member
  rw [found, Option.some.injEq] at namedFound
  rw [namedFound]
  exact name

theorem Written.map_canonical {shape : RecordShape} {members : List (String × Value)}
    (written : Written shape members) :
    Written shape (members.map fun member => (member.1, member.2.canonical)) where
  named key item member := by
    obtain ⟨⟨key, raw⟩, inMembers, same⟩ := List.mem_map.mp member
    cases same
    exact written.named key raw inMembers
  keys_nodup := by
    rw [List.map_map]
    exact written.keys_nodup

theorem FieldFrom.eq_of_optional {α : Type} {shape : RecordShape} {members : List (String × Value)}
    {index : Nat} {decode : Value → Except DecodeError (Option α)} {value result : Option α}
    (write : α → Value) (written : Written shape members)
    (fieldFrom : FieldFrom shape (Value.keyedMembers members) index
      (fun item value => decode item = .ok value) none result)
    (found : shape.fieldIndex? (shape.fieldName index) = some index)
    (present : ∀ item, (shape.fieldName index, item) ∈ members ↔
      ∃ given, value = some given ∧ item = write given)
    (reads : ∀ given, decode (write given) = .ok (some given)) :
    result = value := by
  have keyed : ∀ {key item}, (key, item) ∈ Value.keyedMembers members ↔ (key, item) ∈ members :=
    Value.mem_keyedMembers written.keys_nodup
  cases value with
  | none =>
    refine fieldFrom.eq_of_unnamed fun key item member named => ?_
    have name := written.name_eq (keyed.mp member) named
    obtain ⟨given, absent, -⟩ := (present item).mp (name ▸ keyed.mp member)
    cases absent
  | some given =>
    exact fieldFrom.eq_of_member (keyed.mpr ((present _).mpr ⟨given, rfl, rfl⟩)) found (reads given)

theorem decodeMembers_written {σ : Type} {source : Source} {shape : RecordShape}
    {decodeField : Nat → Value → Except DecodeError (σ → σ)} {members : List (String × Value)}
    (written : Written shape members)
    (decodes : ∀ key item index, (key, item) ∈ members → shape.fieldIndex? key = some index →
      ∃ update, decodeField index item = .ok update)
    (complete : ∀ read : List Nat, (∀ key item index, (key, item) ∈ members →
      shape.fieldIndex? key = some index → index ∈ read) → shape.firstMissing? read = none)
    (initial : σ) :
    ∃ result, decodeMembers source shape decodeField initial [] (Value.keyedMembers members) =
      .ok result := by
  have keyed : ∀ {key item}, (key, item) ∈ Value.keyedMembers members ↔ (key, item) ∈ members :=
    Value.mem_keyedMembers written.keys_nodup
  refine decodeMembers_ok (fun key item index member => decodes key item index (keyed.mp member))
    ?_ (fun _ _ _ _ _ => List.not_mem_nil) (fun read _ named => complete read
      fun key item index member => named key item index (keyed.mpr member))
  refine (Value.keyedMembers_ascending members).imp_of_mem ?_
  intro first second firstMember secondMember below index firstFound secondFound
  obtain ⟨firstIndex, firstNamed, firstName⟩ := written.named _ _ (keyed.mp firstMember)
  obtain ⟨secondIndex, secondNamed, secondName⟩ := written.named _ _ (keyed.mp secondMember)
  rw [firstFound, Option.some.injEq] at firstNamed
  rw [secondFound, Option.some.injEq] at secondNamed
  subst firstNamed secondNamed
  rw [← firstName, ← secondName] at below
  exact lt_irrefl _ below

/-! ### The fields of client, TLS and SASL settings -/

theorem fieldIndex?_lt {shape : RecordShape} {key : String} {index : Nat}
    (found : shape.fieldIndex? key = some index) : index < shape.fields.length :=
  (List.findIdx?_eq_some_iff_findIdx_eq.mp found).1

theorem setWith_sets {α σ : Type} {decode : Value → Except DecodeError α} {set : α → σ → σ}
    {proj : σ → α} (sets : ∀ value state, proj (set value state) = value) {item : Value}
    {update : σ → σ} (decoded : setWith decode set item = .ok update) :
    ∃ value, decode item = .ok value ∧ ∀ state, proj (update state) = value := by
  obtain ⟨value, decodedValue, rfl⟩ := setWith_ok.mp decoded
  exact ⟨value, decodedValue, sets value⟩

section Fields

variable {source : Source} {index : Nat} {item : Value}

theorem clientField_frame {update : ClientSettings → ClientSettings}
    (decoded : clientField source index item = .ok update) (settings : ClientSettings) :
    (index ≠ 0 → (update settings).bootstrapServers = settings.bootstrapServers) ∧
    (index ≠ 1 → (update settings).clientId = settings.clientId) ∧
    (index ≠ 2 → (update settings).plaintext = settings.plaintext) ∧
    (index ≠ 3 → (update settings).tls = settings.tls) ∧
    (index ≠ 4 → (update settings).sasl = settings.sasl) ∧
    (index < 5 → (update settings).properties = settings.properties) := by
  rcases index with _ | _ | _ | _ | _ | index <;>
    obtain ⟨_, -, rfl⟩ := setWith_ok.mp decoded <;> simp

theorem tlsField_frame {update : TlsSettings → TlsSettings}
    (decoded : tlsField source index item = .ok update) (tls : TlsSettings) :
    (index ≠ 0 → (update tls).caCertPath = tls.caCertPath) ∧
    (index ≠ 1 → (update tls).certPath = tls.certPath) ∧
    (index ≠ 2 → (update tls).keyPath = tls.keyPath) ∧
    (index < 3 → (update tls).insecureSkipVerify = tls.insecureSkipVerify) := by
  rcases index with _ | _ | _ | index <;>
    obtain ⟨_, -, rfl⟩ := setWith_ok.mp decoded <;> simp

theorem saslField_frame {update : SaslSettings → SaslSettings}
    (decoded : saslField source index item = .ok update) (sasl : SaslSettings) :
    (index ≠ 0 → (update sasl).mechanism = sasl.mechanism) ∧
    (index ≠ 1 → (update sasl).username = sasl.username) ∧
    (index < 2 → (update sasl).password = sasl.password) := by
  rcases index with _ | _ | index <;>
    obtain ⟨_, -, rfl⟩ := setWith_ok.mp decoded <;> simp

end Fields

structure ClientFieldsFrom (source : Source) (members : List (String × Value))
    (initial result : ClientSettings) : Prop where
  bootstrapServers : FieldFrom clientShape members 0
    (fun item text => decodeString source "a string" item = .ok text)
    initial.bootstrapServers result.bootstrapServers
  clientId : FieldFrom clientShape members 1
    (fun item clientId => decodeOptional decodeScalar item = .ok clientId) initial.clientId result.clientId
  plaintext : FieldFrom clientShape members 2
    (fun item flag => decodeBool source item = .ok flag) initial.plaintext result.plaintext
  tls : FieldFrom clientShape members 3
    (fun item tls => decodeOptional (decodeTls source) item = .ok tls) initial.tls result.tls
  sasl : FieldFrom clientShape members 4
    (fun item sasl => decodeOptional (decodeSasl source) item = .ok sasl) initial.sasl result.sasl
  properties : FieldFrom clientShape members 5
    (fun item properties => decodeProperties source item = .ok properties)
    initial.properties result.properties

theorem clientFieldsFrom {source : Source} {initial result : ClientSettings} {seen : List Nat}
    {members : List (String × Value)}
    (decoded : decodeMembers source clientShape (clientField source) initial seen members = .ok result) :
    ClientFieldsFrom source members initial result where
  bootstrapServers := decodeMembers_fieldFrom
    (fun _ _ _ _ _ differs field state => (clientField_frame field state).1 differs)
    (fun _ _ field => setWith_sets (fun _ _ => rfl) field) decoded
  clientId := decodeMembers_fieldFrom
    (fun _ _ _ _ _ differs field state => (clientField_frame field state).2.1 differs)
    (fun _ _ field => setWith_sets (fun _ _ => rfl) field) decoded
  plaintext := decodeMembers_fieldFrom
    (fun _ _ _ _ _ differs field state => (clientField_frame field state).2.2.1 differs)
    (fun _ _ field => setWith_sets (fun _ _ => rfl) field) decoded
  tls := decodeMembers_fieldFrom
    (fun _ _ _ _ _ differs field state => (clientField_frame field state).2.2.2.1 differs)
    (fun _ _ field => setWith_sets (fun _ _ => rfl) field) decoded
  sasl := decodeMembers_fieldFrom
    (fun _ _ _ _ _ differs field state => (clientField_frame field state).2.2.2.2.1 differs)
    (fun _ _ field => setWith_sets (fun _ _ => rfl) field) decoded
  properties := decodeMembers_fieldFrom
    (fun _ other _ _ found differs field state => by
      have below : other < 6 := fieldIndex?_lt found
      exact (clientField_frame field state).2.2.2.2.2 (by omega))
    (fun _ _ field => setWith_sets (fun _ _ => rfl) field) decoded

structure TlsFieldsFrom (source : Source) (members : List (String × Value))
    (initial result : TlsSettings) : Prop where
  caCertPath : FieldFrom tlsShape members 0
    (fun item path => decodeOptional (decodeString source "path string") item = .ok path)
    initial.caCertPath result.caCertPath
  certPath : FieldFrom tlsShape members 1
    (fun item path => decodeOptional (decodeString source "path string") item = .ok path)
    initial.certPath result.certPath
  keyPath : FieldFrom tlsShape members 2
    (fun item path => decodeOptional (decodeString source "path string") item = .ok path)
    initial.keyPath result.keyPath
  insecureSkipVerify : FieldFrom tlsShape members 3
    (fun item flag => decodeBool source item = .ok flag)
    initial.insecureSkipVerify result.insecureSkipVerify

theorem tlsFieldsFrom {source : Source} {initial result : TlsSettings} {seen : List Nat}
    {members : List (String × Value)}
    (decoded : decodeMembers source tlsShape (tlsField source) initial seen members = .ok result) :
    TlsFieldsFrom source members initial result where
  caCertPath := decodeMembers_fieldFrom
    (fun _ _ _ _ _ differs field state => (tlsField_frame field state).1 differs)
    (fun _ _ field => setWith_sets (fun _ _ => rfl) field) decoded
  certPath := decodeMembers_fieldFrom
    (fun _ _ _ _ _ differs field state => (tlsField_frame field state).2.1 differs)
    (fun _ _ field => setWith_sets (fun _ _ => rfl) field) decoded
  keyPath := decodeMembers_fieldFrom
    (fun _ _ _ _ _ differs field state => (tlsField_frame field state).2.2.1 differs)
    (fun _ _ field => setWith_sets (fun _ _ => rfl) field) decoded
  insecureSkipVerify := decodeMembers_fieldFrom
    (fun _ other _ _ found differs field state => by
      have below : other < 4 := fieldIndex?_lt found
      exact (tlsField_frame field state).2.2.2 (by omega))
    (fun _ _ field => setWith_sets (fun _ _ => rfl) field) decoded

structure SaslFieldsFrom (source : Source) (members : List (String × Value))
    (initial result : SaslSettings) : Prop where
  mechanism : FieldFrom saslShape members 0
    (fun item mechanism => decodeMechanism source item = .ok mechanism)
    initial.mechanism result.mechanism
  username : FieldFrom saslShape members 1
    (fun item text => decodeScalar item = .ok text) initial.username result.username
  password : FieldFrom saslShape members 2
    (fun item text => decodeScalar item = .ok text) initial.password result.password

theorem saslFieldsFrom {source : Source} {initial result : SaslSettings} {seen : List Nat}
    {members : List (String × Value)}
    (decoded : decodeMembers source saslShape (saslField source) initial seen members = .ok result) :
    SaslFieldsFrom source members initial result where
  mechanism := decodeMembers_fieldFrom
    (fun _ _ _ _ _ differs field state => (saslField_frame field state).1 differs)
    (fun _ _ field => setWith_sets (fun _ _ => rfl) field) decoded
  username := decodeMembers_fieldFrom
    (fun _ _ _ _ _ differs field state => (saslField_frame field state).2.1 differs)
    (fun _ _ field => setWith_sets (fun _ _ => rfl) field) decoded
  password := decodeMembers_fieldFrom
    (fun _ other _ _ found differs field state => by
      have below : other < 3 := fieldIndex?_lt found
      exact (saslField_frame field state).2.2 (by omega))
    (fun _ _ field => setWith_sets (fun _ _ => rfl) field) decoded

end Decode

end TopicLifecycle
