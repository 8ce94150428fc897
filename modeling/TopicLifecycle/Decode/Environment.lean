import TopicLifecycle.Decode.Tree
import TopicLifecycle.Binary64.Decimal

/-!
Settings from environment variables: each name is turned into a path, each value typed as a
boolean, an integer, a binary64 or text, and the variables are set one after another into a tree
that is then decoded with the environment's rules.
-/

namespace TopicLifecycle.Decode

open Json

inductive PathPart where
  | key (name : String)
  | index (position : Int)
deriving DecidableEq, Repr

theorem dropWhile_length_le (keep : Char → Bool) :
    ∀ characters : List Char, (characters.dropWhile keep).length ≤ characters.length
  | [] => by simp
  | character :: rest => by
    simp only [List.dropWhile]
    split
    · have := dropWhile_length_le keep rest
      simp only [List.length_cons]
      omega
    · exact Nat.le_refl _

def isKeyCharacter (character : Char) : Bool :=
  character.isAlphanum || character = ' ' || character = '_' || character = '-'

def spanKey (characters : List Char) : Option (String × List Char) :=
  let key := characters.takeWhile isKeyCharacter
  if key.isEmpty then none else some (String.ofList key, characters.dropWhile isKeyCharacter)

def isSpace (character : Char) : Bool := character = ' ' || character = '\t'

def dropSign : List Char → Bool × List Char
  | '-' :: rest => (true, rest)
  | rest => (false, rest)

theorem dropSign_length_le (characters : List Char) :
    (dropSign characters).2.length ≤ characters.length := by
  unfold dropSign
  split <;> simp

def digitsValue (digits : List Char) : Nat :=
  digits.foldl (fun total digit => 10 * total + (digit.toNat - 48)) 0

/-- The signed value of an index's digits, if there are digits and the value is within the
signed 64-bit range. -/
def indexValue? (negative : Bool) (digits : List Char) : Option Int :=
  let value : Int := if negative then -(digitsValue digits : Int) else digitsValue digits
  if digits.isEmpty || value < -(Nat.pow 2 63 : Int) || (Nat.pow 2 63 : Int) ≤ value then none
  else some value

/-- An index in brackets after its opening bracket: an optional minus sign and digits between
optional spaces, within the signed 64-bit range, and the closing bracket. -/
def spanIndex (characters : List Char) : Option (Int × List Char) :=
  let signed := dropSign (characters.dropWhile isSpace)
  match (signed.2.dropWhile Char.isDigit).dropWhile isSpace with
  | ']' :: rest => (indexValue? signed.1 (signed.2.takeWhile Char.isDigit)).map (·, rest)
  | _ => none

theorem spanIndex_shorter (characters after : List Char) (position : Int)
    (found : spanIndex characters = some (position, after)) :
    after.length < characters.length + 1 := by
  have first := dropWhile_length_le isSpace characters
  have second := dropSign_length_le (characters.dropWhile isSpace)
  have third := dropWhile_length_le Char.isDigit (dropSign (characters.dropWhile isSpace)).2
  have fourth := dropWhile_length_le isSpace
    ((dropSign (characters.dropWhile isSpace)).2.dropWhile Char.isDigit)
  unfold spanIndex at found
  dsimp only at found
  split at found
  · rename_i rest closing
    obtain ⟨_, _, same⟩ := Option.map_eq_some_iff.mp found
    have restSame : rest = after := congrArg Prod.snd same
    rw [closing] at fourth
    simp only [List.length_cons] at fourth
    rw [← restSame]
    omega
  · simp at found

def readPathRest : List Char → Option (List PathPart)
  | [] => some []
  | '.' :: rest =>
    match h : spanKey rest with
    | some (name, after) =>
      have : after.length < rest.length + 1 := by
        unfold spanKey at h
        dsimp only at h
        split at h
        · simp at h
        · simp only [Option.some.injEq, Prod.mk.injEq] at h
          rw [← h.2]
          have := dropWhile_length_le isKeyCharacter rest
          omega
      (readPathRest after).map (PathPart.key name :: ·)
    | none => none
  | '[' :: rest =>
    match h : spanIndex rest with
    | some (position, after) =>
      have : after.length < rest.length + 1 := spanIndex_shorter rest after position h
      (readPathRest after).map (PathPart.index position :: ·)
    | none => none
  | _ => none
termination_by characters => characters.length

def readPath (key : String) : Option (List PathPart) := do
  let (name, rest) ← spanKey key.toList
  let parts ← readPathRest rest
  pure (PathPart.key name :: parts)

def padTo (position : Nat) (items : List Value) : List Value :=
  items ++ List.replicate (position + 1 - items.length) .null

/-- The members with `key` set by `update` applied to its value, null when it is new; keys stay
ascending. -/
def updateMember (key : String) (update : Value → Value) :
    List (String × Value) → List (String × Value)
  | [] => [(key, update .null)]
  | (existing, item) :: rest =>
    if key < existing then (key, update .null) :: (existing, item) :: rest
    else if key = existing then (key, update item) :: rest
    else (existing, item) :: updateMember key update rest

def memberValue (key : String) (members : List (String × Value)) : Value :=
  ((members.find? (·.1 = key)).map (·.2)).getD .null

/-- The place a signed index names in an array of `length` items, on 64-bit words: a negative
index counts back from the end and wraps around when it passes the start. -/
def wordPosition (position : Int) (length : Nat) : Nat :=
  if 0 ≤ position then position.toNat
  else (Nat.pow 2 64 + length - position.natAbs) % Nat.pow 2 64

/-- The tree with the value set at the path: tables and arrays are made where the path needs
them, replacing what is there. An array is resized to one more than the place set, on 64-bit
words: for the largest place that size wraps to zero and the place is then out of bounds, and
an array of `2 ^ 32` items or more is beyond what can be made; both stop the program with the
reason. -/
def setAt (value : Value) : List PathPart → Value → Except String Value
  | [], _ => .ok value
  | .key name :: rest, tree => do
    let members := match tree with
      | .object members => members
      | _ => []
    let updated ← setAt value rest (memberValue name members)
    pure (.object (updateMember name (fun _ => updated) members))
  | .index position :: rest, tree => do
    let items := match tree with
      | .array items => items
      | _ => []
    let place := wordPosition position items.length
    if place + 1 = Nat.pow 2 64 then
      .error ("index out of bounds: the len is 0 but the index is " ++ toString place)
    else if Nat.pow 2 32 ≤ place then .error "capacity overflow"
    else
      let padded := padTo place items
      let updated ← setAt value rest (padded.getD place .null)
      pure (.array (padded.set place updated))

/-- Text with every `__` turned into `.`, from the left. -/
def dotSeparators : List Char → List Char
  | '_' :: '_' :: rest => '.' :: dotSeparators rest
  | character :: rest => character :: dotSeparators rest
  | [] => []

/-- The key of a variable: its name lower-cased, without the prefix and `__`, with separators
as dots; none when the name lacks the prefix. -/
def variableKey (prefix? : Option String) (name : String) : Option String :=
  let lowered := Text.lowerFull name
  let unprefixed := match prefix? with
    | some start =>
      let pattern := Text.lowerFull (start ++ "__")
      if lowered.startsWith pattern then some (String.ofList (lowered.toList.drop pattern.length))
      else none
    | none => some lowered
  unprefixed.map fun key => String.ofList (dotSeparators key.toList)

def readInteger? (text : String) : Option Int :=
  let (negative, digits) := match text.toList with
    | '-' :: rest => (true, rest)
    | '+' :: rest => (false, rest)
    | characters => (false, characters)
  if digits.isEmpty || !digits.all Char.isDigit then none
  else
    let magnitude := (String.ofList digits).toNat!
    let value : Int := if negative then -(magnitude : Int) else magnitude
    if -(Nat.pow 2 63 : Int) ≤ value ∧ value < (Nat.pow 2 63 : Int) then some value else none

/-- The value of a variable: a boolean, an integer, a binary64, or text. -/
def variableValue (text : String) : Value :=
  let lowered := Text.lowerFull text
  if lowered = "true" then .bool true
  else if lowered = "false" then .bool false
  else match readInteger? text with
    | some value => .number (.integer value)
    | none =>
      match Binary64.readDecimal? text with
      | some value => .number (.binary value)
      | none => .string text

/-- The tree of settings the variables give, or why building it stops the program. -/
def environmentTree (prefix? : Option String) (entries : List (String × String)) :
    Except String Value :=
  entries.foldlM (fun tree (name, text) =>
    match variableKey prefix? name with
    | none => pure tree
    | some key => setAt (variableValue text) ((readPath key).getD [.key key]) tree) (.object [])

def clientOfEnvironment (prefix? : Option String) (entries : List (String × String)) :
    Except DecodeError Settings.ClientSettings :=
  match environmentTree prefix? entries with
  | .error reason => .error (.halt reason)
  | .ok tree => decodeClient .environment tree

def managerOfEnvironment (prefix? : Option String) (entries : List (String × String)) :
    Except DecodeError Settings.ManagerSettings :=
  match environmentTree prefix? entries with
  | .error reason => .error (.halt reason)
  | .ok tree => decodeManager .environment tree

end TopicLifecycle.Decode
