import TopicLifecycle.Proofs.Variables
import TopicLifecycle.Proofs.Properties
import TopicLifecycle.Decode.Text

/-!
Texts read from scalars, in every place client settings want text, from a JSON document and
from JSON text.
-/

namespace TopicLifecycle.Json

theorem Value.mem_of_mem_foldl_insertMember :
    ∀ (members start : List (String × Value)), Value.KeysAscending start → ∀ {member},
      member ∈ members.foldl (fun sorted entry => Value.insertMember entry.1 entry.2 sorted) start →
        member ∈ start ∨ member ∈ members
  | [], _, _, _, kept => .inl kept
  | entry :: rest, start, ascending, _, kept => by
    -- every list built on the way ascends, so an insertion keeps or replaces what was there
    rcases Value.mem_of_mem_foldl_insertMember rest _ (Value.insertMember_ascending ascending) kept
      with inserted | inRest
    · rcases (Value.mem_insertMember ascending).mp inserted with rfl | ⟨inStart, -⟩
      · exact .inr List.mem_cons_self
      · exact .inl inStart
    · exact .inr (List.mem_cons_of_mem _ inRest)

theorem Value.mem_of_mem_keyedMembers {members : List (String × Value)} {member : String × Value}
    (kept : member ∈ Value.keyedMembers members) : member ∈ members :=
  (Value.mem_of_mem_foldl_insertMember members [] List.Pairwise.nil kept).resolve_left
    List.not_mem_nil

theorem Value.keysAscending_of_canonical {value : Value} {members : List (String × Value)}
    (keyed : value.canonical = .object members) : Value.KeysAscending members := by
  cases value with
  | object raw =>
    rw [Value.canonical_object, Value.object.injEq] at keyed
    rw [← keyed]
    exact Value.keyedMembers_ascending _
  | array _ => simp [Value.canonical] at keyed
  | null | bool _ | number _ | string _ => simp [Value.canonical] at keyed

theorem Value.field?_eq_none_iff {members : List (String × Value)} {key : String} :
    (Value.object members).field? key = none ↔ ∀ member ∈ members, member.1 ≠ key := by
  simp [Value.field?]

theorem Value.object_of_field? {value item : Value} {key : String}
    (found : value.field? key = some item) : ∃ members, value = .object members := by
  cases value with
  | object members => exact ⟨members, rfl⟩
  | _ => cases found

theorem Cursor.advance_rest {cursor : Cursor} {character : Char} {rest : List Char}
    (next : cursor.rest = character :: rest) : cursor.advance.rest = rest := by
  obtain ⟨text, line, column⟩ := cursor
  cases next
  unfold Cursor.advance
  split <;> simp_all

theorem Fault.fixAt_cause (fault : Fault) (position : Position) :
    (fault.fixAt position).cause = fault.cause := by
  unfold Fault.fixAt
  split <;> rfl

theorem readWord_complete :
    ∀ (word : List Char) {cursor : Cursor} {rest : List Char}, cursor.rest = word ++ rest →
      ∃ after : Cursor, after.rest = rest ∧ readWord word cursor = .ok ((), after)
  | [], cursor, _, next => ⟨cursor, by simpa using next, rfl⟩
  | letter :: word, cursor, rest, next => by
    obtain ⟨after, rested, read⟩ := readWord_complete word (Cursor.advance_rest next)
    refine ⟨after, rested, ?_⟩
    simp only [readWord, next, List.cons_append, ↓reduceIte, read]

end TopicLifecycle.Json

namespace TopicLifecycle.Decode

open Json Settings

/-- How a scalar reads as text: a text as it is, a boolean as `true` or `false`, an integer in
decimal with a minus sign when negative, a binary64 in positional form. -/
inductive ScalarText : Value → String → Prop
  | string (text : String) : ScalarText (.string text) text
  | bool (flag : Bool) : ScalarText (.bool flag) (if flag then "true" else "false")
  | integer (value : Int) :
      ScalarText (.number (.integer value)) ((if value < 0 then "-" else "") ++ toString value.natAbs)
  | binary (value : Binary64) : ScalarText (.number (.binary value)) value.positional

theorem toString_int (value : Int) :
    toString value = (if value < 0 then "-" else "") ++ toString value.natAbs := by
  cases value with
  | ofNat n => rfl
  | negSucc n =>
    rw [if_pos (Int.negSucc_lt_zero n)]
    rfl

/-! ### The reader -/

theorem decodeScalar_eq_ok_iff {item : Value} {text : String} :
    decodeScalar item = .ok text ↔ ScalarText item text := by
  constructor
  · intro decoded
    cases item with
    | string given => cases decoded; exact .string _
    | bool flag => cases decoded; cases flag <;> exact .bool _
    | number number =>
      cases number with
      | integer value => cases decoded; rw [numberText, toString_int]; exact .integer value
      | binary value => cases decoded; exact .binary value
    | null | array _ | object _ => cases decoded
  · rintro (_ | flag | value | value)
    · rfl
    · cases flag <;> rfl
    · rw [← toString_int]; rfl
    · rfl

theorem decodeScalar_of_not_scalar {item : Value} (notScalar : ¬ Scalar item) :
    decodeScalar item = .error (.invalidType (unexpectedOf item) scalarExpecting) := by
  cases item with
  | bool _ | number _ | string _ => exact absurd trivial notScalar
  | null | array _ | object _ => rfl

theorem canonical_of_scalar {item : Value} (scalar : Scalar item) : item.canonical = item := by
  cases item with
  | bool _ | number _ | string _ => simp [Value.canonical]
  | null | array _ | object _ => exact absurd scalar id

theorem unexpectedOf_canonical (item : Value) : unexpectedOf item.canonical = unexpectedOf item := by
  cases item <;> simp [Value.canonical, unexpectedOf]

theorem scalar_canonical_iff {item : Value} : Scalar item.canonical ↔ Scalar item := by
  cases item <;> simp [Value.canonical, Scalar]

theorem decodeScalar_canonical (item : Value) : decodeScalar item.canonical = decodeScalar item := by
  by_cases scalar : Scalar item
  · rw [canonical_of_scalar scalar]
  · rw [decodeScalar_of_not_scalar scalar,
      decodeScalar_of_not_scalar (mt scalar_canonical_iff.mp scalar), unexpectedOf_canonical]

theorem canonical_null : Value.null.canonical = .null := by
  simp [Value.canonical]

theorem canonical_ne_null {item : Value} (notNull : item ≠ .null) : item.canonical ≠ .null := by
  cases item <;> simp_all [Value.canonical]

/-! ### Documents that hold one value -/

theorem decodeMembers_refused {σ : Type} {source : Source} {shape : RecordShape}
    {decodeField : Nat → Value → Except DecodeError (σ → σ)} {state : σ} {seen : List Nat}
    {key : String} {item : Value} {index : Nat} {error : DecodeError} (rest : List (String × Value))
    (found : shape.fieldIndex? key = some index) (fresh : index ∉ seen)
    (refused : decodeField index item = .error error) :
    decodeMembers source shape decodeField state seen ((key, item) :: rest) =
      .error (underKey source key error) := by
  simp [decodeMembers, found, fresh, refused]

theorem clientShape_firstMissing? (seen : List Nat) : clientShape.firstMissing? seen = none := rfl

theorem clientShape_clientId : clientShape.fieldIndex? "client_id" = some 1 := rfl
theorem clientShape_sasl : clientShape.fieldIndex? "sasl" = some 4 := rfl
theorem clientShape_properties : clientShape.fieldIndex? "properties" = some 5 := rfl
theorem saslShape_username : saslShape.fieldIndex? "username" = some 1 := rfl
theorem saslShape_password : saslShape.fieldIndex? "password" = some 2 := rfl

theorem clientOfDocument_object (members : List (String × Value)) :
    clientOfDocument (.object members) =
      decodeMembers .document clientShape (clientField .document) {} []
        (Value.keyedMembers (members.map fun member => (member.1, member.2.canonical))) := by
  rw [clientOfDocument, Value.canonical_object]
  rfl

theorem clientOfDocument_single {key : String} {index : Nat}
    (found : clientShape.fieldIndex? key = some index) (item : Value) :
    clientOfDocument (.object [(key, item)]) =
      (clientField .document index item.canonical).map fun update => update {} := by
  rw [clientOfDocument_object]
  show decodeMembers .document clientShape (clientField .document) {} [] [(key, item.canonical)] = _
  cases field : clientField .document index item.canonical with
  | error error =>
    rw [decodeMembers_refused [] found List.not_mem_nil field]
    rfl
  | ok update =>
    rw [decodeMembers_known [] found List.not_mem_nil field,
      decodeMembers_nil (clientShape_firstMissing? _)]
    rfl

theorem clientOfDocument_clientId {item : Value} (notNull : item ≠ .null) :
    clientOfDocument (.object [("client_id", item)]) =
      (decodeScalar item).map fun text => { clientId := some text } := by
  rw [clientOfDocument_single clientShape_clientId]
  simp only [clientField, setWith, decodeOptional_of_ne_null (canonical_ne_null notNull),
    decodeScalar_canonical]
  cases decodeScalar item <;> rfl

theorem clientOfDocument_clientId_null :
    clientOfDocument (.object [("client_id", .null)]) = .ok {} := by
  rw [clientOfDocument_single clientShape_clientId, canonical_null]
  rfl

theorem keyedMembers_credentials (username password : Value) :
    Value.keyedMembers [("username", username), ("password", password)] =
      [("password", password), ("username", username)] := by
  show Value.insertMember "password" password [("username", username)] = _
  rw [Value.insertMember, if_pos (by decide)]

theorem decodeSasl_credentials (username password : Value) :
    decodeSasl .document (.object [("password", password), ("username", username)]) =
      (decodeScalar password).bind fun password =>
        (decodeScalar username).map fun username => { username, password } := by
  rw [decodeSasl, decodeRecord_object]
  cases readPassword : decodeScalar password with
  | error error =>
    have refused : saslField .document 2 password = .error error := by
      simp [saslField, setWith, readPassword, Except.map]
    rw [decodeMembers_refused _ saslShape_password List.not_mem_nil refused]
    rfl
  | ok given =>
    have setPassword : saslField .document 2 password = .ok fun sasl => { sasl with password := given } := by
      simp [saslField, setWith, readPassword, Except.map]
    rw [decodeMembers_known _ saslShape_password List.not_mem_nil setPassword]
    cases readUsername : decodeScalar username with
    | error error =>
      have refused : saslField .document 1 username = .error error := by
        simp [saslField, setWith, readUsername, Except.map]
      rw [decodeMembers_refused [] saslShape_username (by decide) refused]
      rfl
    | ok name =>
      have setUsername : saslField .document 1 username = .ok fun sasl => { sasl with username := name } := by
        simp [saslField, setWith, readUsername, Except.map]
      rw [decodeMembers_known [] saslShape_username (by decide) setUsername, decodeMembers_nil rfl]
      rfl

theorem clientOfDocument_sasl (username password : Value) :
    clientOfDocument (.object [("sasl", .object [("username", username), ("password", password)])]) =
      ((decodeScalar password).bind fun password =>
        (decodeScalar username).map fun username => { username, password }).map
        fun sasl => { sasl := some sasl } := by
  rw [clientOfDocument_single clientShape_sasl]
  simp only [clientField, setWith, Value.canonical_object, List.map_cons, List.map_nil,
    keyedMembers_credentials, decodeOptional_object, decodeSasl_credentials, decodeScalar_canonical]
  cases decodeScalar password <;> cases decodeScalar username <;> rfl

theorem decodeProperties_single (key : String) (item : Value) :
    decodeProperties .document (.object [(key, item)]) =
      (decodeScalar item).map fun text => Properties.empty.insert key text := by
  cases read : decodeScalar item <;>
    simp only [decodeProperties, List.foldlM_cons, List.foldlM_nil, read] <;> rfl

theorem clientOfDocument_properties (key : String) (item : Value) :
    clientOfDocument (.object [("properties", .object [(key, item)])]) =
      (decodeScalar item).map fun text => { properties := Properties.empty.insert key text } := by
  rw [clientOfDocument_single clientShape_properties]
  simp only [clientField, setWith, Value.canonical_object, List.map_cons, List.map_nil]
  rw [show Value.keyedMembers [(key, item.canonical)] = [(key, item.canonical)] from rfl,
    decodeProperties_single, decodeScalar_canonical]
  cases decodeScalar item <;> rfl

/-! ### Every object document -/

theorem foldlM_inserts_keeps {step : Properties → String × Value → Except DecodeError Properties}
    (stepOk : ∀ properties key item result, step properties (key, item) = .ok result →
      ∃ text, decodeScalar item = .ok text ∧ result = properties.insert key text)
    {key : String} {members : List (String × Value)} {start result : Properties}
    (absent : ∀ member ∈ members, member.1 ≠ key) (folded : members.foldlM step start = .ok result) :
    result.get? key = start.get? key := by
  refine foldlM_except_invariant (fun properties => properties.get? key = start.get? key)
    (fun before entry after member kept stepped => ?_) (fun _ inside => inside) rfl folded
  obtain ⟨text, -, rfl⟩ := stepOk before entry.1 entry.2 after stepped
  rw [Properties.get?_insert, if_neg (absent entry member)]
  exact kept

theorem foldlM_inserts_get? {step : Properties → String × Value → Except DecodeError Properties}
    (stepOk : ∀ properties key item result, step properties (key, item) = .ok result →
      ∃ text, decodeScalar item = .ok text ∧ result = properties.insert key text) :
    ∀ {members : List (String × Value)} {start result : Properties}, (members.map Prod.fst).Nodup →
      members.foldlM step start = .ok result → ∀ key item, (key, item) ∈ members →
        ∃ text, decodeScalar item = .ok text ∧ result.get? key = some text
  | [], _, _, _, _, _, _, member => absurd member List.not_mem_nil
  | (name, first) :: rest, start, result, distinct, folded, key, item, member => by
    rw [List.map_cons, List.nodup_cons] at distinct
    rw [List.foldlM_cons] at folded
    cases stepped : step start (name, first) with
    | error error => rw [stepped] at folded; cases folded
    | ok next =>
      rw [stepped] at folded
      rcases List.mem_cons.mp member with same | inRest
      · cases same
        obtain ⟨text, read, rfl⟩ := stepOk start name first next stepped
        have absent : ∀ member ∈ rest, member.1 ≠ name := fun member inRest same =>
          distinct.1 (List.mem_map.mpr ⟨member, inRest, same⟩)
        refine ⟨text, read, ?_⟩
        rw [foldlM_inserts_keeps stepOk absent folded, Properties.get?_insert, if_pos rfl]
      · exact foldlM_inserts_get? stepOk distinct.2 folded key item inRest

theorem decodeProperties_get? {source : Source} {members : List (String × Value)}
    {properties : Properties} (distinct : (members.map Prod.fst).Nodup)
    (decoded : decodeProperties source (.object members) = .ok properties) {key : String}
    {item : Value} (member : (key, item) ∈ members) :
    ∃ text, decodeScalar item = .ok text ∧ properties.get? key = some text := by
  unfold decodeProperties at decoded
  refine foldlM_inserts_get? ?_ distinct decoded key item member
  intro before name given after stepped
  dsimp only at stepped
  cases read : decodeScalar given with
  | error error => rw [read] at stepped; cases stepped
  | ok text =>
    rw [read] at stepped
    cases stepped
    exact ⟨text, rfl, rfl⟩

theorem invalidType_scalarExpecting_text (found : Unexpected) (style : Style) :
    (DecodeError.invalidType found scalarExpecting).text style =
      "invalid type: " ++ found.text style ++ ", expected a string, number or boolean" := by
  have joined : ", expected " ++ scalarExpecting = ", expected a string, number or boolean" := by
    simp only [scalarExpecting, String.reduceAppend]
  -- the message's equation lemmas are costly to unfold, but it reduces on this constructor
  calc (DecodeError.invalidType found scalarExpecting).text style
      = "invalid type: " ++ found.text style ++ ", expected " ++ scalarExpecting := rfl
    _ = _ := by rw [String.append_assoc, joined]

theorem clientOfDocument_empty : clientOfDocument (.object []) = .ok {} := by
  rw [clientOfDocument_object]
  rfl

section Documents

variable {members : List (String × Value)} {settings : ClientSettings}
  (decoded : clientOfDocument (.object members) = .ok settings)
include decoded

theorem clientId_of_clientOfDocument :
    ((Value.object members).canonical.field? "client_id" = none → settings.clientId = none) ∧
    ∀ item, (Value.object members).canonical.field? "client_id" = some item →
      (item = .null ∧ settings.clientId = none) ∨ ∃ text, ScalarText item text ∧ settings.clientId = some text := by
  rw [clientOfDocument_object] at decoded
  have fields := clientFieldsFrom decoded
  rw [Value.canonical_object]
  constructor
  · intro absent
    refine fields.clientId.eq_of_unnamed fun key item member named => ?_
    have same : key = "client_id" := RecordShape.key_eq_of_fieldIndex?
      (show clientShape.fields[1]? = some { name := "client_id" } from rfl) rfl named
    exact Value.field?_eq_none_iff.mp absent _ member same
  · intro item found
    have read : decodeOptional decodeScalar item = .ok settings.clientId :=
      fields.clientId.1 _ _ (Value.mem_of_field? found) clientShape_clientId
    by_cases null : item = .null
    · subst null
      exact .inl ⟨rfl, (Except.ok.inj read).symm⟩
    · rw [decodeOptional_of_ne_null null] at read
      cases readText : decodeScalar item with
      | error error => rw [readText] at read; cases read
      | ok text =>
        rw [readText] at read
        exact .inr ⟨text, decodeScalar_eq_ok_iff.mp readText, (Except.ok.inj read).symm⟩

theorem saslFields_of_clientOfDocument {saslMembers : List (String × Value)}
    (found : (Value.object members).canonical.field? "sasl" = some (.object saslMembers)) :
    ∃ credentials, settings.sasl = some credentials ∧
      SaslFieldsFrom .document saslMembers { username := "", password := "" } credentials := by
  rw [clientOfDocument_object] at decoded
  rw [Value.canonical_object] at found
  have read : decodeOptional (decodeSasl .document) (.object saslMembers) = .ok settings.sasl :=
    (clientFieldsFrom decoded).sasl.1 _ _ (Value.mem_of_field? found) clientShape_sasl
  rw [decodeOptional_object] at read
  cases readSasl : decodeSasl .document (.object saslMembers) with
  | error error => rw [readSasl] at read; cases read
  | ok credentials =>
    rw [readSasl] at read
    exact ⟨credentials, (Except.ok.inj read).symm, saslFieldsFrom readSasl⟩

theorem credentials_of_clientOfDocument {sasl item : Value}
    (found : (Value.object members).canonical.field? "sasl" = some sasl) :
    (sasl.field? "username" = some item →
      ∃ credentials, settings.sasl = some credentials ∧ ScalarText item credentials.username) ∧
    (sasl.field? "password" = some item →
      ∃ credentials, settings.sasl = some credentials ∧ ScalarText item credentials.password) := by
  constructor
  · intro named
    obtain ⟨saslMembers, rfl⟩ := Value.object_of_field? named
    obtain ⟨credentials, present, fields⟩ := saslFields_of_clientOfDocument decoded found
    exact ⟨credentials, present,
      decodeScalar_eq_ok_iff.mp (fields.username.1 _ _ (Value.mem_of_field? named) saslShape_username)⟩
  · intro named
    obtain ⟨saslMembers, rfl⟩ := Value.object_of_field? named
    obtain ⟨credentials, present, fields⟩ := saslFields_of_clientOfDocument decoded found
    exact ⟨credentials, present,
      decodeScalar_eq_ok_iff.mp (fields.password.1 _ _ (Value.mem_of_field? named) saslShape_password)⟩

theorem property_of_clientOfDocument {properties item : Value} {key : String}
    (found : (Value.object members).canonical.field? "properties" = some properties)
    (named : properties.field? key = some item) :
    ∃ text, ScalarText item text ∧ settings.properties.get? key = some text := by
  rw [clientOfDocument_object] at decoded
  rw [Value.canonical_object] at found
  have inKeyed := Value.mem_of_field? found
  have read : decodeProperties .document properties = .ok settings.properties :=
    (clientFieldsFrom decoded).properties.1 _ _ inKeyed clientShape_properties
  obtain ⟨propertyMembers, rfl⟩ := Value.object_of_field? named
  obtain ⟨⟨_, raw⟩, -, written⟩ := List.mem_map.mp (Value.mem_of_mem_keyedMembers inKeyed)
  have keyed : raw.canonical = .object propertyMembers := (Prod.mk.inj written).2
  obtain ⟨text, readText, has⟩ := decodeProperties_get?
    (Value.keysAscending_of_canonical keyed).keys_nodup read (Value.mem_of_field? named)
  exact ⟨text, decodeScalar_eq_ok_iff.mp readText, has⟩

end Documents

/-! ### Reading from text

The reader of JSON text asks for a scalar at the same places and reads the literals the same
way: `true` and `false` as those texts, while null, an array and an object are refused with the
same message, and null at an optional place is none. -/

section Literals

variable (depth : Nat) {start : Cursor} {rest : List Char}

theorem readScalar_true (next : start.skipWhitespace.rest = ['t', 'r', 'u', 'e'] ++ rest) :
    ∃ after : Cursor, after.rest = rest ∧ readScalar depth start = .ok ("true", after) := by
  obtain ⟨after, rested, read⟩ := readWord_complete ['r', 'u', 'e'] (Cursor.advance_rest next)
  refine ⟨after, rested, ?_⟩
  simp only [readScalar, atValue, next, List.cons_append, read]
  rfl

theorem readScalar_false (next : start.skipWhitespace.rest = ['f', 'a', 'l', 's', 'e'] ++ rest) :
    ∃ after : Cursor, after.rest = rest ∧ readScalar depth start = .ok ("false", after) := by
  obtain ⟨after, rested, read⟩ := readWord_complete ['a', 'l', 's', 'e'] (Cursor.advance_rest next)
  refine ⟨after, rested, ?_⟩
  simp only [readScalar, atValue, next, List.cons_append, read]
  rfl

theorem readScalar_null (next : start.skipWhitespace.rest = ['n', 'u', 'l', 'l'] ++ rest) :
    ∃ after : Cursor, after.rest = rest ∧ readScalar depth start =
      .error ((Fault.decode (.invalidType .unit scalarExpecting)).fixAt after.position, after) := by
  obtain ⟨after, rested, read⟩ := readWord_complete ['u', 'l', 'l'] (Cursor.advance_rest next)
  refine ⟨after, rested, ?_⟩
  simp only [readScalar, atValue, next, List.cons_append, read]
  rfl

theorem readOptional_null {α : Type} (read : Cursor → Outcome α)
    (next : start.skipWhitespace.rest = ['n', 'u', 'l', 'l'] ++ rest) :
    ∃ after : Cursor, after.rest = rest ∧ readOptional read start = .ok (none, after) := by
  obtain ⟨after, rested, readNull⟩ := readWord_complete ['u', 'l', 'l'] (Cursor.advance_rest next)
  refine ⟨after, rested, ?_⟩
  simp only [readOptional, next, List.cons_append, readNull]
  rfl

theorem finishWith_failDecode {α : Type} (close : Cursor → Outcome Unit) (error : DecodeError)
    (inside : Cursor) :
    ∃ after, finishWith close (failDecode error inside : Outcome α) = .error (Fault.decode error, after) := by
  simp only [finishWith, failDecode]
  split
  · next closed _ => exact ⟨closed, rfl⟩
  · next stopped _ => exact ⟨stopped, rfl⟩

theorem enter_failDecode {α : Type} (deep : 1 < depth) (close : Cursor → Outcome Unit)
    (error : DecodeError) (cursor : Cursor) :
    ∃ fault after, (enter depth cursor fun _ inside =>
        (finishWith close (failDecode error inside) : Outcome α)).fix = .error (fault, after) ∧
      fault.cause = .decode error := by
  have closing : ∃ after, finishWith close (failDecode error cursor.advance : Outcome α) =
      .error (Fault.decode error, after) := finishWith_failDecode close error cursor.advance
  obtain ⟨after, finished⟩ := closing
  refine ⟨(Fault.decode error).fixAt after.position, after, ?_, Fault.fixAt_cause _ _⟩
  simp only [enter, if_neg (Nat.not_le.mpr deep), finished]
  rfl

theorem readScalar_array (deep : 1 < depth) (next : start.skipWhitespace.rest = '[' :: rest) :
    ∃ fault after, readScalar depth start = .error (fault, after) ∧
      fault.cause = .decode (.invalidType .sequence scalarExpecting) := by
  simp only [readScalar, atValue, next]
  exact enter_failDecode depth deep closeSequence _ _

theorem readScalar_object (deep : 1 < depth) (next : start.skipWhitespace.rest = '{' :: rest) :
    ∃ fault after, readScalar depth start = .error (fault, after) ∧
      fault.cause = .decode (.invalidType .map scalarExpecting) := by
  simp only [readScalar, atValue, next]
  exact enter_failDecode depth deep closeObject _ _

end Literals

/-- Texts read from scalars. The one reader takes a text as it is, a boolean as `true` or
`false`, an integer in decimal and a binary64 in positional form, and refuses anything else with
`invalid type: …, expected a string, number or boolean`. In client settings read from a document
it serves the client id, the SASL username and password and every property value: a document
that holds only one of them reads exactly as the reader does, save that a null or missing client
id is unset; and in every object document that reads, each of these places holds the reading of
the scalar the document gives there. -/
theorem scalar_settings_read_as_text :
    (∀ item text, decodeScalar item = .ok text ↔ ScalarText item text) ∧
    (∀ item, ¬ Scalar item → decodeScalar item = .error (.invalidType (unexpectedOf item) scalarExpecting)) ∧
    (∀ found style, (DecodeError.invalidType found scalarExpecting).text style =
      "invalid type: " ++ found.text style ++ ", expected a string, number or boolean") ∧
    (∀ item, item ≠ .null → clientOfDocument (.object [("client_id", item)]) =
      (decodeScalar item).map fun text => { clientId := some text }) ∧
    clientOfDocument (.object [("client_id", .null)]) = .ok {} ∧
    clientOfDocument (.object []) = .ok {} ∧
    (∀ item password, clientOfDocument
      (.object [("sasl", .object [("username", item), ("password", .string password)])]) =
        (decodeScalar item).map fun username => { sasl := some { username, password } }) ∧
    (∀ item username, clientOfDocument
      (.object [("sasl", .object [("username", .string username), ("password", item)])]) =
        (decodeScalar item).map fun password => { sasl := some { username, password } }) ∧
    (∀ key item, clientOfDocument (.object [("properties", .object [(key, item)])]) =
      (decodeScalar item).map fun text => { properties := Properties.empty.insert key text }) ∧
    (∀ members settings, clientOfDocument (.object members) = .ok settings →
      ((Value.object members).canonical.field? "client_id" = none → settings.clientId = none) ∧
      (∀ item, (Value.object members).canonical.field? "client_id" = some item →
        (item = .null ∧ settings.clientId = none) ∨
          ∃ text, ScalarText item text ∧ settings.clientId = some text) ∧
      (∀ sasl item, (Value.object members).canonical.field? "sasl" = some sasl →
        (sasl.field? "username" = some item →
          ∃ credentials, settings.sasl = some credentials ∧ ScalarText item credentials.username) ∧
        (sasl.field? "password" = some item →
          ∃ credentials, settings.sasl = some credentials ∧ ScalarText item credentials.password)) ∧
      (∀ properties key item, (Value.object members).canonical.field? "properties" = some properties →
        properties.field? key = some item →
          ∃ text, ScalarText item text ∧ settings.properties.get? key = some text)) := by
  refine ⟨fun _ _ => decodeScalar_eq_ok_iff, fun _ notScalar => decodeScalar_of_not_scalar notScalar,
    invalidType_scalarExpecting_text, fun _ notNull => clientOfDocument_clientId notNull,
    clientOfDocument_clientId_null, clientOfDocument_empty, ?_, ?_, clientOfDocument_properties, ?_⟩
  · intro item password
    rw [clientOfDocument_sasl]
    cases decodeScalar item <;> rfl
  · intro item username
    rw [clientOfDocument_sasl]
    cases decodeScalar item <;> rfl
  · intro members settings decoded
    exact ⟨(clientId_of_clientOfDocument decoded).1, (clientId_of_clientOfDocument decoded).2,
      fun _ _ found => credentials_of_clientOfDocument decoded found,
      fun _ _ _ found named => property_of_clientOfDocument decoded found named⟩

end TopicLifecycle.Decode
