import TopicLifecycle.Proofs.Flatten
import TopicLifecycle.Decode.Environment

/-!
Texts loaded from environment variables are the variables' values read back.
-/

namespace TopicLifecycle.Decode

open Json Settings

/-! ### Places in a tree -/

inductive Step where
  | member (key : String)
  | element (position : Nat)
deriving DecidableEq, Repr

inductive Reaches : Value → List Step → Value → Prop
  | here (value : Value) : Reaches value [] value
  | member {members : List (String × Value)} {key : String} {item : Value} {steps : List Step}
      {leaf : Value} :
      (key, item) ∈ members → Reaches item steps leaf → Reaches (.object members) (.member key :: steps) leaf
  | element {items : List Value} {position : Nat} {item : Value} {steps : List Step} {leaf : Value} :
      items[position]? = some item → Reaches item steps leaf →
        Reaches (.array items) (.element position :: steps) leaf

def Scalar : Value → Prop
  | .bool _ | .number _ | .string _ => True
  | _ => False

def Leads : List PathPart → List Step → Prop
  | [], [] => True
  | .key name :: parts, .member key :: steps => name = key ∧ Leads parts steps
  | .index _ :: parts, .element _ :: steps => Leads parts steps
  | _, _ => False

def variablePath (key : String) : List PathPart := (readPath key).getD [.key key]

theorem Reaches.scalar {value : Value} (scalar : Scalar value) {steps : List Step} {leaf : Value}
    (reaches : Reaches value steps leaf) : steps = [] ∧ leaf = value := by
  cases reaches with
  | here => exact ⟨rfl, rfl⟩
  | member => exact absurd scalar id
  | element => exact absurd scalar id

theorem Reaches.not_null {steps : List Step} {leaf : Value} (reaches : Reaches .null steps leaf)
    (scalar : Scalar leaf) : False := by
  cases reaches
  exact scalar

/-! ### Setting one variable -/

theorem mem_updateMember {name key : String} {sub item : Value} {members : List (String × Value)}
    (member : (key, item) ∈ updateMember name (fun _ => sub) members) :
    (key = name ∧ item = sub) ∨ (key, item) ∈ members := by
  induction members with
  | nil =>
    simp only [updateMember, List.mem_singleton, Prod.mk.injEq] at member
    exact .inl member
  | cons first rest ih =>
    obtain ⟨existing, old⟩ := first
    unfold updateMember at member
    split_ifs at member
    · rcases List.mem_cons.mp member with same | kept
      · simp only [Prod.mk.injEq] at same
        exact .inl same
      · exact .inr kept
    · rcases List.mem_cons.mp member with same | kept
      · simp only [Prod.mk.injEq] at same
        exact .inl same
      · exact .inr (List.mem_cons_of_mem _ kept)
    · rcases List.mem_cons.mp member with same | later
      · exact .inr (same ▸ List.mem_cons_self)
      · exact (ih later).imp_right (List.mem_cons_of_mem _)

theorem memberValue_cases (name : String) (members : List (String × Value)) :
    (name, memberValue name members) ∈ members ∨ memberValue name members = .null := by
  unfold memberValue
  cases found : members.find? (·.1 = name) with
  | none => exact .inr rfl
  | some member =>
    have named : member.1 = name := by simpa using List.find?_some found
    have inMembers := List.mem_of_find?_eq_some found
    left
    rw [← named]
    exact inMembers

theorem getElem?_padTo {place position : Nat} {items : List Value} {item : Value}
    (found : (padTo place items)[position]? = some item) : items[position]? = some item ∨ item = .null := by
  unfold padTo at found
  rw [List.getElem?_append] at found
  split at found
  · exact .inl found
  · exact .inr (List.eq_of_mem_replicate (List.mem_of_getElem? found))

def SetReaches (value : Value) (path : List PathPart) (tree updated : Value) : Prop :=
  ∀ steps leaf, Reaches updated steps leaf → Scalar leaf →
    (Leads path steps ∧ leaf = value) ∨ Reaches tree steps leaf

theorem setAt_key_ok {value tree updated : Value} {name : String} {rest : List PathPart}
    (set : setAt value (.key name :: rest) tree = .ok updated) :
    ∃ members sub, (∀ key item steps leaf, (key, item) ∈ members →
        Reaches item steps leaf → Reaches tree (.member key :: steps) leaf) ∧
      setAt value rest (memberValue name members) = .ok sub ∧
      updated = .object (updateMember name (fun _ => sub) members) := by
  obtain ⟨members, held, set⟩ : ∃ members, (∀ key item steps leaf, (key, item) ∈ members →
      Reaches item steps leaf → Reaches tree (.member key :: steps) leaf) ∧
      setAt value (.key name :: rest) (.object members) = .ok updated := by
    cases tree with
    | object members => exact ⟨members, fun _ _ _ _ member reaches => .member member reaches, set⟩
    | _ => exact ⟨[], fun _ _ _ _ member => absurd member List.not_mem_nil, set⟩
  cases below : setAt value rest (memberValue name members) with
  | error error => simp [setAt, below] at set
  | ok sub =>
    simp only [setAt, below] at set
    cases set
    exact ⟨members, sub, held, below, rfl⟩

section SetAt

variable {value : Value} {rest : List PathPart}
  (ih : ∀ {tree updated}, setAt value rest tree = .ok updated → SetReaches value rest tree updated)
include ih

theorem setAt_key_reaches {name : String} {tree updated : Value}
    (set : setAt value (.key name :: rest) tree = .ok updated) :
    SetReaches value (.key name :: rest) tree updated := by
  obtain ⟨members, sub, held, below, rfl⟩ := setAt_key_ok set
  intro steps leaf reaches scalar
  cases reaches with
  | here => exact absurd scalar id
  | member member reachesItem =>
    rcases mem_updateMember member with ⟨named, rfl⟩ | kept
    · rw [named]
      rcases ih below _ _ reachesItem scalar with ⟨leads, same⟩ | old
      · exact .inl ⟨⟨rfl, leads⟩, same⟩
      · rcases memberValue_cases name members with inMembers | null
        · exact .inr (held _ _ _ _ inMembers old)
        · exact ((null ▸ old).not_null scalar).elim
    · exact .inr (held _ _ _ _ kept reachesItem)

theorem setAt_index_reaches {position : Int} {tree updated : Value}
    (set : setAt value (.index position :: rest) tree = .ok updated) :
    SetReaches value (.index position :: rest) tree updated := by
  obtain ⟨items, held, set⟩ : ∃ items, (∀ place item steps leaf, items[place]? = some item →
      Reaches item steps leaf → Reaches tree (.element place :: steps) leaf) ∧
      setAt value (.index position :: rest) (.array items) = .ok updated := by
    cases tree with
    | array items => exact ⟨items, fun _ _ _ _ found reaches => .element found reaches, set⟩
    | _ => exact ⟨[], fun _ _ _ _ found => by simp at found, set⟩
  simp only [setAt] at set
  split_ifs at set
  generalize wordPosition position items.length = place at set
  have long : place < (padTo place items).length := by
    simp only [padTo, List.length_append, List.length_replicate]
    omega
  have former : ∀ steps leaf, Reaches ((padTo place items).getD place .null) steps leaf → Scalar leaf →
      Reaches tree (.element place :: steps) leaf := by
    intro steps leaf reaches scalar
    rw [List.getD_eq_getElem?_getD, List.getElem?_eq_getElem long, Option.getD_some] at reaches
    rcases getElem?_padTo (List.getElem?_eq_getElem long) with old | null
    · exact held _ _ _ _ old reaches
    · exact ((null ▸ reaches).not_null scalar).elim
  cases below : setAt value rest ((padTo place items).getD place .null) with
  | error error =>
    rw [below] at set
    cases set
  | ok sub =>
    rw [below] at set
    cases set
    intro steps leaf reaches scalar
    cases reaches with
    | here => exact absurd scalar id
    | element found reachesItem =>
      rename_i other item steps
      by_cases same : other = place
      · subst same
        rw [List.getElem?_set_self long, Option.some.injEq] at found
        subst found
        rcases ih below _ _ reachesItem scalar with ⟨leads, same⟩ | old
        · exact .inl ⟨leads, same⟩
        · exact .inr (former _ _ old scalar)
      · rw [List.getElem?_set_ne (Ne.symm same)] at found
        rcases getElem?_padTo found with old | null
        · exact .inr (held _ _ _ _ old reachesItem)
        · exact ((null ▸ reachesItem).not_null scalar).elim

end SetAt

theorem setAt_reaches {value : Value} (scalar : Scalar value) :
    ∀ {path : List PathPart} {tree updated : Value}, setAt value path tree = .ok updated →
      SetReaches value path tree updated
  | [], _, _, set => by
    simp only [setAt, Except.ok.injEq] at set
    subst set
    intro steps leaf reaches _
    obtain ⟨rfl, rfl⟩ := reaches.scalar scalar
    exact .inl ⟨trivial, rfl⟩
  | .key _ :: _, _, _, set => setAt_key_reaches (setAt_reaches scalar) set
  | .index _ :: _, _, _, set => setAt_index_reaches (setAt_reaches scalar) set

/-! ### Setting every variable -/

theorem foldlM_except_invariant {α β ε : Type} {step : β → α → Except ε β} (holds : β → Prop)
    {all : List α} (keeps : ∀ state entry next, entry ∈ all → holds state → step state entry = .ok next →
      holds next) :
    ∀ {entries : List α} {start result : β}, (∀ entry ∈ entries, entry ∈ all) → holds start →
      entries.foldlM step start = .ok result → holds result
  | [], _, _, _, holdsStart, folded => by
    cases folded
    exact holdsStart
  | entry :: rest, start, _, inside, holdsStart, folded => by
    rw [List.foldlM_cons] at folded
    cases stepped : step start entry with
    | error error =>
      rw [stepped] at folded
      cases folded
    | ok next =>
      rw [stepped] at folded
      exact foldlM_except_invariant holds keeps (fun other member => inside other (List.mem_cons_of_mem _ member))
        (keeps start entry next (inside entry List.mem_cons_self) holdsStart stepped) folded

theorem variableValue_scalar (text : String) : Scalar (variableValue text) := by
  unfold variableValue
  dsimp only
  split_ifs
  · trivial
  · trivial
  · split
    · trivial
    · split <;> trivial

theorem variablePath_head (key : String) : ∃ name rest, variablePath key = .key name :: rest := by
  unfold variablePath readPath
  cases spanned : spanKey key.toList with
  | none => exact ⟨key, [], by simp⟩
  | some pair =>
    cases parts : readPathRest pair.2 with
    | none => exact ⟨key, [], by simp [parts]⟩
    | some rest => exact ⟨pair.1, rest, by simp [parts]⟩

def LeavesFrom (prefix? : Option String) (entries : List (String × String)) (tree : Value) : Prop :=
  ∀ steps leaf, Reaches tree steps leaf → Scalar leaf →
    ∃ name text key, (name, text) ∈ entries ∧ variableKey prefix? name = some key ∧
      Leads (variablePath key) steps ∧ leaf = variableValue text

/-- The tree the variables build is a table, and each scalar in it is a variable's value whose
path leads to it. -/
theorem environmentTree_leaves {prefix? : Option String} {entries : List (String × String)}
    {tree : Value} (built : environmentTree prefix? entries = .ok tree) :
    (∃ members, tree = .object members) ∧ LeavesFrom prefix? entries tree := by
  unfold environmentTree at built
  refine foldlM_except_invariant
    (fun tree => (∃ members, tree = .object members) ∧ LeavesFrom prefix? entries tree) ?_
    (fun _ member => member) ⟨⟨[], rfl⟩, ?_⟩ built
  · intro before entry after member holds stepped
    obtain ⟨name, text⟩ := entry
    dsimp only at stepped
    cases keyed : variableKey prefix? name with
    | none =>
      rw [keyed] at stepped
      cases stepped
      exact holds
    | some key =>
      rw [keyed] at stepped
      change setAt (variableValue text) (variablePath key) before = .ok after at stepped
      refine ⟨?_, fun steps leaf reaches scalar => ?_⟩
      · obtain ⟨first, rest, path⟩ := variablePath_head key
        rw [path] at stepped
        obtain ⟨members, _, _, _, rfl⟩ := setAt_key_ok stepped
        exact ⟨_, rfl⟩
      · rcases setAt_reaches (variableValue_scalar text) stepped steps leaf reaches scalar with
          ⟨leads, rfl⟩ | old
        · exact ⟨name, text, key, member, keyed, leads, rfl⟩
        · exact holds.2 steps leaf old scalar
  · intro steps leaf reaches scalar
    cases reaches with
    | here => exact absurd scalar id
    | member member => exact absurd member List.not_mem_nil

/-! ### Texts read back -/

def readBack (text : String) : String :=
  match variableValue text with
  | .bool flag => toString flag
  | .number number => numberText number
  | .string printed => printed
  | _ => text

theorem decodeScalar_variableValue (text : String) :
    decodeScalar (variableValue text) = .ok (readBack text) := by
  have scalar := variableValue_scalar text
  unfold readBack
  cases valued : variableValue text with
  | bool flag => rfl
  | number number => rfl
  | string printed => rfl
  | _ =>
    rw [valued] at scalar
    exact absurd scalar id

theorem readBack_of_text {text : String} (notTrue : Text.lowerFull text ≠ "true")
    (notFalse : Text.lowerFull text ≠ "false") (notInteger : readInteger? text = none)
    (notFloat : Binary64.readDecimal? text = none) : readBack text = text := by
  simp [readBack, variableValue, notTrue, notFalse, notInteger, notFloat]

def FromVariable (prefix? : Option String) (entries : List (String × String)) (steps : List Step)
    (setting : String) : Prop :=
  ∃ name text key, (name, text) ∈ entries ∧ variableKey prefix? name = some key ∧
    Leads (variablePath key) steps ∧ setting = readBack text

def TextsAt (prefix? : Option String) (entries : List (String × String)) (place : List Step)
    (value : Value) : Prop :=
  ∀ steps leaf text, Reaches value steps leaf → decodeScalar leaf = .ok text →
    FromVariable prefix? entries (place ++ steps) text

section Texts

variable {prefix? : Option String} {entries : List (String × String)}

theorem scalar_of_decodeScalar {value : Value} {text : String} (decoded : decodeScalar value = .ok text) :
    Scalar value := by
  cases value with
  | bool _ | number _ | string _ => trivial
  | _ => cases decoded

theorem LeavesFrom.textsAt {tree : Value} (leaves : LeavesFrom prefix? entries tree) :
    TextsAt prefix? entries [] tree := by
  intro steps leaf text reaches decoded
  obtain ⟨name, value, key, member, keyed, leads, rfl⟩ :=
    leaves steps leaf reaches (scalar_of_decodeScalar decoded)
  rw [decodeScalar_variableValue, Except.ok.injEq] at decoded
  exact ⟨name, value, key, member, keyed, leads, decoded.symm⟩

theorem TextsAt.member {place : List Step} {members : List (String × Value)}
    (texts : TextsAt prefix? entries place (.object members)) {key : String} {item : Value}
    (member : (key, item) ∈ members) : TextsAt prefix? entries (place ++ [.member key]) item := by
  intro steps leaf text reaches decoded
  simpa using texts (.member key :: steps) leaf text (.member member reaches) decoded

theorem TextsAt.element {place : List Step} {items : List Value}
    (texts : TextsAt prefix? entries place (.array items)) {position : Nat} {item : Value}
    (found : items[position]? = some item) :
    TextsAt prefix? entries (place ++ [.element position]) item := by
  intro steps leaf text reaches decoded
  simpa using texts (.element position :: steps) leaf text (.element found reaches) decoded

theorem TextsAt.subset {place : List Step} {members kept : List (String × Value)}
    (texts : TextsAt prefix? entries place (.object members)) (within : ∀ member ∈ kept, member ∈ members) :
    TextsAt prefix? entries place (.object kept) := by
  intro steps leaf text reaches decoded
  cases reaches with
  | here => cases decoded
  | member member reachesItem => exact texts _ leaf text (.member (within _ member) reachesItem) decoded

theorem TextsAt.text {place : List Step} {value : Value} {text : String}
    (texts : TextsAt prefix? entries place value) (decoded : decodeScalar value = .ok text) :
    FromVariable prefix? entries place text := by
  simpa using texts [] value text (.here value) decoded

end Texts

/-! ### Where a decoded text comes from -/

theorem decodeScalar_of_decodeString {source : Source} {expected : String} {value : Value}
    {text : String} (decoded : decodeString source expected value = .ok text) :
    decodeScalar value = .ok text := by
  cases value <;> cases source <;> first | exact decoded | cases decoded

theorem decodeScalar_of_decodeOptional {decode : Value → Except DecodeError String} {value : Value}
    {text : String} (reads : ∀ text, decode value = .ok text → decodeScalar value = .ok text)
    (decoded : decodeOptional decode value = .ok (some text)) : decodeScalar value = .ok text := by
  by_cases null : value = .null
  · subst null
    cases decoded
  · rw [decodeOptional_of_ne_null null] at decoded
    cases read : decode value with
    | error error => simp [read, Except.map] at decoded
    | ok inner =>
      simp only [read, Except.map, Except.ok.injEq, Option.some.injEq] at decoded
      rw [← decoded]
      exact reads inner read

theorem decode_of_decodeOptional {α : Type} {decode : Value → Except DecodeError α} {value : Value}
    {result : α} (decoded : decodeOptional decode value = .ok (some result)) :
    decode value = .ok result := by
  by_cases null : value = .null
  · subst null
    cases decoded
  · rw [decodeOptional_of_ne_null null] at decoded
    cases read : decode value with
    | error error => simp [read, Except.map] at decoded
    | ok inner => simpa [read, Except.map] using decoded

theorem FieldFrom.exists_of_ne {β : Type} {shape : RecordShape} {members : List (String × Value)}
    {index : Nat} {decodes : Value → β → Prop} {initial value : β}
    (fieldFrom : FieldFrom shape members index decodes initial value) (changed : value ≠ initial) :
    ∃ key item, (key, item) ∈ members ∧ shape.fieldIndex? key = some index ∧ decodes item value := by
  by_cases named : ∃ key item, (key, item) ∈ members ∧ shape.fieldIndex? key = some index
  · obtain ⟨key, item, member, found⟩ := named
    exact ⟨key, item, member, found, fieldFrom.1 key item member found⟩
  · refine absurd (fieldFrom.2 fun key item member found => named ⟨key, item, member, found⟩) changed

section Elements

variable {σ β : Type} {source : Source} {shape : RecordShape}
  {decodeField : Nat → Value → Except DecodeError (σ → σ)} {proj : σ → β} {target bound : Nat}
  {decodes : Value → β → Prop}
  (others : ∀ other item update, other < bound → other ≠ target → decodeField other item = .ok update →
    ∀ state, proj (update state) = proj state)
  (own : ∀ item update, decodeField target item = .ok update →
    ∃ value, decodes item value ∧ ∀ state, proj (update state) = value)
include others own

theorem decodeElements_set {state result : σ} {index : Nat} {shapes : List FieldShape}
    {items : List Value} (fits : index + shapes.length ≤ bound)
    (decoded : decodeElements source shape decodeField state index shapes items = .ok result)
    (changed : proj result ≠ proj state) :
    ∃ offset item, items[offset]? = some item ∧ index + offset = target ∧ decodes item (proj result) := by
  induction shapes generalizing state index items with
  | nil =>
    cases decoded
    exact absurd rfl changed
  | cons field shapes ih =>
    cases items with
    | nil =>
      unfold decodeElements at decoded
      split at decoded
      · cases decoded
      · obtain ⟨offset, item, found, -⟩ := ih (by simp at fits; omega) decoded changed
        simp at found
    | cons item items =>
      unfold decodeElements at decoded
      cases read : decodeField index item with
      | error error => simp [read] at decoded
      | ok update =>
        simp only [read] at decoded
        by_cases here : index = target
        · subst here
          obtain ⟨value, decodesTo, setsTo⟩ := own item update read
          have kept : proj result = proj (update state) := by
            by_contra moved
            obtain ⟨offset, _, _, beyond, _⟩ := ih (by simp at fits; omega) decoded moved
            omega
          exact ⟨0, item, rfl, rfl, by rw [kept, setsTo]; exact decodesTo⟩
        · have unchanged : proj (update state) = proj state :=
            others index item update (by simp at fits; omega) here read state
          obtain ⟨offset, later, found, lands, decodesTo⟩ :=
            ih (by simp at fits; omega) decoded (unchanged ▸ changed)
          exact ⟨offset + 1, later, by simpa using found, by omega, decodesTo⟩

end Elements

theorem decodeRecord_ok {σ : Type} {source : Source} {shape : RecordShape} {initial result : σ}
    {decodeField : Nat → Value → Except DecodeError (σ → σ)} {value : Value}
    (decoded : decodeRecord source shape initial decodeField value = .ok result) :
    (∃ members, value = .object members ∧
      decodeMembers source shape decodeField initial [] members = .ok result) ∨
    (∃ items, value = .array items ∧
      decodeElements source shape decodeField initial 0 shape.fields items = .ok result) := by
  cases value with
  | object members => exact .inl ⟨members, rfl, decoded⟩
  | array items =>
    refine .inr ⟨items, rfl, ?_⟩
    cases elements : decodeElements source shape decodeField initial 0 shape.fields items with
    | error error =>
      rw [decodeRecord, elements] at decoded
      cases decoded
    | ok state =>
      rw [decodeRecord, elements] at decoded
      by_cases fits : items.length ≤ shape.fields.length
      · simp only [fits] at decoded
        cases decoded
        rfl
      · cases source <;> simp only [fits] at decoded <;> cases decoded
        rfl
  | _ => simp [decodeRecord] at decoded

section Records

variable {prefix? : Option String} {entries : List (String × String)}

theorem FieldFrom.fromVariable {β : Type} {shape : RecordShape} {members : List (String × Value)}
    {index : Nat} {decodes : Value → β → Prop} {initial value : β} {place : List Step} {text : String}
    (fieldFrom : FieldFrom shape members index decodes initial value) (changed : value ≠ initial)
    (reads : ∀ item, decodes item value → decodeScalar item = .ok text)
    (texts : TextsAt prefix? entries place (.object members)) :
    ∃ key, shape.fieldIndex? key = some index ∧
      FromVariable prefix? entries (place ++ [.member key]) text := by
  obtain ⟨key, item, member, found, decodesTo⟩ := fieldFrom.exists_of_ne changed
  exact ⟨key, found, (texts.member member).text (reads item decodesTo)⟩

theorem recordText {σ β : Type} {source : Source} {shape : RecordShape}
    {decodeField : Nat → Value → Except DecodeError (σ → σ)} {initial result : σ} {value : Value}
    {place : List Step} (decoded : decodeRecord source shape initial decodeField value = .ok result)
    (texts : TextsAt prefix? entries place value) {index : Nat} {field : FieldShape}
    (listed : shape.fields[index]? = some field) (noAliases : field.aliases = [])
    {proj : σ → β} {decodes : Value → β → Prop}
    (others : ∀ other item update, other < shape.fields.length → other ≠ index →
      decodeField other item = .ok update → ∀ state, proj (update state) = proj state)
    (own : ∀ item update, decodeField index item = .ok update →
      ∃ value, decodes item value ∧ ∀ state, proj (update state) = value)
    {text : String} (changed : proj result ≠ proj initial)
    (reads : ∀ item, decodes item (proj result) → decodeScalar item = .ok text) :
    FromVariable prefix? entries (place ++ [.member field.name]) text ∨
      FromVariable prefix? entries (place ++ [.element index]) text := by
  rcases decodeRecord_ok decoded with ⟨members, rfl, read⟩ | ⟨items, rfl, read⟩
  · have fieldFrom := decodeMembers_fieldFrom
      (fun _ other _ _ found differs field state =>
        others other _ _ (fieldIndex?_lt found) differs field state) own read
    obtain ⟨key, found, fromVariable⟩ := fieldFrom.fromVariable changed reads texts
    rw [RecordShape.key_eq_of_fieldIndex? listed noAliases found] at fromVariable
    exact .inl fromVariable
  · obtain ⟨offset, item, found, lands, decodesTo⟩ :=
      decodeElements_set others own (Nat.le_of_eq (Nat.zero_add _)) read changed
    rw [Nat.zero_add] at lands
    subst lands
    exact .inr ((texts.element found).text (reads item decodesTo))

theorem tlsTexts {source : Source} {place : List Step} {value : Value} {tls : TlsSettings}
    (texts : TextsAt prefix? entries place value) (decoded : decodeTls source value = .ok tls) :
    (∀ path, tls.caCertPath = some path →
      FromVariable prefix? entries (place ++ [.member "ca_cert_path"]) path ∨
        FromVariable prefix? entries (place ++ [.element 0]) path) ∧
    (∀ path, tls.certPath = some path →
      FromVariable prefix? entries (place ++ [.member "cert_path"]) path ∨
        FromVariable prefix? entries (place ++ [.element 1]) path) ∧
    (∀ path, tls.keyPath = some path →
      FromVariable prefix? entries (place ++ [.member "key_path"]) path ∨
        FromVariable prefix? entries (place ++ [.element 2]) path) := by
  have reads : ∀ {path : String} item, decodeOptional (decodeString source "path string") item =
      .ok (some path) → decodeScalar item = .ok path :=
    fun _ read => decodeScalar_of_decodeOptional (fun _ => decodeScalar_of_decodeString) read
  refine ⟨fun path set => ?_, fun path set => ?_, fun path set => ?_⟩
  · exact recordText decoded texts rfl rfl
      (fun _ _ _ _ differs field state => (tlsField_frame field state).1 differs)
      (fun _ _ field => setWith_sets (fun _ _ => rfl) field) (by simp [set])
      (fun item read => reads item (set ▸ read))
  · exact recordText decoded texts rfl rfl
      (fun _ _ _ _ differs field state => (tlsField_frame field state).2.1 differs)
      (fun _ _ field => setWith_sets (fun _ _ => rfl) field) (by simp [set])
      (fun item read => reads item (set ▸ read))
  · exact recordText decoded texts rfl rfl
      (fun _ _ _ _ differs field state => (tlsField_frame field state).2.2.1 differs)
      (fun _ _ field => setWith_sets (fun _ _ => rfl) field) (by simp [set])
      (fun item read => reads item (set ▸ read))

theorem saslTexts {source : Source} {place : List Step} {value : Value} {sasl : SaslSettings}
    (texts : TextsAt prefix? entries place value) (decoded : decodeSasl source value = .ok sasl) :
    (sasl.username ≠ "" →
      FromVariable prefix? entries (place ++ [.member "username"]) sasl.username ∨
        FromVariable prefix? entries (place ++ [.element 1]) sasl.username) ∧
    (sasl.password ≠ "" →
      FromVariable prefix? entries (place ++ [.member "password"]) sasl.password ∨
        FromVariable prefix? entries (place ++ [.element 2]) sasl.password) := by
  refine ⟨fun changed => ?_, fun changed => ?_⟩
  · exact recordText decoded texts rfl rfl
      (fun _ _ _ _ differs field state => (saslField_frame field state).2.1 differs)
      (fun _ _ field => setWith_sets (fun _ _ => rfl) field) changed (fun _ read => read)
  · exact recordText decoded texts
      (show saslShape.fields[2]? = some { name := "password", required := true } from rfl) rfl
      (fun other _ _ below differs field state =>
        (saslField_frame field state).2.2 (by simp [saslShape] at below; omega))
      (fun _ _ field => setWith_sets (fun _ _ => rfl) field) changed (fun _ read => read)

theorem propertiesTexts {source : Source} {place : List Step} {value : Value}
    {properties : Properties} (texts : TextsAt prefix? entries place value)
    (decoded : decodeProperties source value = .ok properties) :
    ∀ key text, (key, text) ∈ properties →
      FromVariable prefix? entries (place ++ [.member key]) text := by
  cases value with
  | object members =>
    unfold decodeProperties at decoded
    refine foldlM_except_invariant (fun read : Properties => ∀ key text, (key, text) ∈ read →
        FromVariable prefix? entries (place ++ [.member key]) text) ?_ (fun _ member => member)
      (fun _ _ member => absurd member List.not_mem_nil) decoded
    intro before entry after member earlier stepped
    obtain ⟨key, item⟩ := entry
    dsimp only at stepped
    cases scalar : decodeScalar item with
    | error error =>
      rw [scalar] at stepped
      cases stepped
    | ok text =>
      rw [scalar] at stepped
      cases stepped
      intro other otherText inserted
      rcases Properties.mem_insert inserted with same | old
      · cases same
        exact (texts.member member).text scalar
      · exact earlier other otherText old
  | _ => cases decoded

end Records

/-! ### Client settings loaded from the environment -/

structure TextsFromVariables (prefix? : Option String) (entries : List (String × String))
    (settings : ClientSettings) : Prop where
  bootstrapServers : settings.bootstrapServers ≠ "" →
    FromVariable prefix? entries [.member "bootstrap_servers"] settings.bootstrapServers ∨
      FromVariable prefix? entries [.member "bootstrapServers"] settings.bootstrapServers
  clientId : ∀ clientId, settings.clientId = some clientId →
    FromVariable prefix? entries [.member "client_id"] clientId
  tlsPaths : ∀ tls, settings.tls = some tls →
    (∀ path, tls.caCertPath = some path →
      FromVariable prefix? entries [.member "tls", .member "ca_cert_path"] path ∨
        FromVariable prefix? entries [.member "tls", .element 0] path) ∧
    (∀ path, tls.certPath = some path →
      FromVariable prefix? entries [.member "tls", .member "cert_path"] path ∨
        FromVariable prefix? entries [.member "tls", .element 1] path) ∧
    (∀ path, tls.keyPath = some path →
      FromVariable prefix? entries [.member "tls", .member "key_path"] path ∨
        FromVariable prefix? entries [.member "tls", .element 2] path)
  credentials : ∀ sasl, settings.sasl = some sasl →
    (sasl.username ≠ "" →
      FromVariable prefix? entries [.member "sasl", .member "username"] sasl.username ∨
        FromVariable prefix? entries [.member "sasl", .element 1] sasl.username) ∧
    (sasl.password ≠ "" →
      FromVariable prefix? entries [.member "sasl", .member "password"] sasl.password ∨
        FromVariable prefix? entries [.member "sasl", .element 2] sasl.password)
  properties : ∀ key text, (key, text) ∈ settings.properties →
    FromVariable prefix? entries [.member "properties", .member key] text

section Client

variable {prefix? : Option String} {entries : List (String × String)}

theorem textsFromVariables_of_members {source : Source} {members : List (String × Value)}
    {settings : ClientSettings} (texts : TextsAt prefix? entries [] (.object members))
    (decoded : decodeMembers source clientShape (clientField source) {} [] members = .ok settings) :
    TextsFromVariables prefix? entries settings := by
  have fields := clientFieldsFrom decoded
  refine ⟨fun changed => ?_, fun clientId set => ?_, fun tls set => ?_, fun sasl set => ?_,
    fun key text member => ?_⟩
  · obtain ⟨key, found, fromVariable⟩ := fields.bootstrapServers.fromVariable changed
      (fun _ read => decodeScalar_of_decodeString read) texts
    obtain ⟨field, listed, named⟩ := RecordShape.named_of_fieldIndex? found
    cases listed
    rcases named with rfl | aliased
    · exact .inl fromVariable
    · rw [List.mem_singleton] at aliased
      subst aliased
      exact .inr fromVariable
  · obtain ⟨key, found, fromVariable⟩ := fields.clientId.fromVariable (by simp [set])
      (fun _ read => decodeScalar_of_decodeOptional (fun _ read => read) (set ▸ read)) texts
    rw [RecordShape.key_eq_of_fieldIndex? rfl rfl found] at fromVariable
    exact fromVariable
  · obtain ⟨key, item, member, found, read⟩ := fields.tls.exists_of_ne (by simp [set])
    rw [RecordShape.key_eq_of_fieldIndex? rfl rfl found] at member
    exact tlsTexts (texts.member member) (decode_of_decodeOptional (set ▸ read))
  · obtain ⟨key, item, member, found, read⟩ := fields.sasl.exists_of_ne (by simp [set])
    rw [RecordShape.key_eq_of_fieldIndex? rfl rfl found] at member
    exact saslTexts (texts.member member) (decode_of_decodeOptional (set ▸ read))
  · obtain ⟨named, item, inMembers, found, read⟩ :=
      fields.properties.exists_of_ne (Properties.ne_empty_of_mem member)
    rw [RecordShape.key_eq_of_fieldIndex? rfl rfl found] at inMembers
    exact propertiesTexts (texts.member inMembers) read key text member

end Client

/-- Loading client settings or manager settings from environment variables sets each text to a
variable's value read back: the value typed as the environment types it, a boolean when it is
true or false in any case, else an integer, else a binary64, and printed again, so that it is the
value as given exactly when it reads as none of those. The variable is one the loader keeps, and
its path leads to the setting: by the setting's name, or by its position in an array. -/
theorem environment_texts_read_back (prefix? : Option String) (entries : List (String × String)) :
    (∀ settings, clientOfEnvironment prefix? entries = .ok settings →
      TextsFromVariables prefix? entries settings) ∧
    ∀ settings, managerOfEnvironment prefix? entries = .ok settings →
      TextsFromVariables prefix? entries settings.client := by
  refine ⟨fun settings loaded => ?_, fun settings loaded => ?_⟩
  · unfold clientOfEnvironment at loaded
    cases built : environmentTree prefix? entries with
    | error reason =>
      rw [built] at loaded
      cases loaded
    | ok tree =>
      rw [built] at loaded
      obtain ⟨⟨members, rfl⟩, leaves⟩ := environmentTree_leaves built
      exact textsFromVariables_of_members leaves.textsAt loaded
  · unfold managerOfEnvironment at loaded
    cases built : environmentTree prefix? entries with
    | error reason =>
      rw [built] at loaded
      cases loaded
    | ok tree =>
      rw [built] at loaded
      obtain ⟨⟨members, rfl⟩, leaves⟩ := environmentTree_leaves built
      obtain ⟨timeouts, kept, client, collected, read, rfl⟩ := decodeManager_ok.mp loaded
      obtain ⟨keptEq, -⟩ := collectTimeouts_ok collected
      simp only [List.reverse_nil, List.nil_append] at keptEq
      have within : ∀ member ∈ kept, member ∈ members := by
        intro member inKept
        rw [keptEq] at inKept
        exact List.mem_of_mem_filter inKept
      exact textsFromVariables_of_members (leaves.textsAt.subset within) read

/-- A password that reads as a boolean is loaded as the boolean printed back, not as given. -/
theorem clientOfEnvironment_password_as_boolean :
    clientOfEnvironment none [("BOOTSTRAP_SERVERS", "kafka:9092"), ("SASL__USERNAME", "user"),
      ("SASL__PASSWORD", "TRUE")] =
      .ok { bootstrapServers := "kafka:9092",
            sasl := some { username := "user", password := "true" } } := by
  decide +kernel

end TopicLifecycle.Decode
