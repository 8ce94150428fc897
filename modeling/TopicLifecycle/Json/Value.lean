import TopicLifecycle.Binary64.Basic

/-!
JSON values, objects keeping their members as read; `Value.canonical` gives the form of a keyed
map.
-/

namespace TopicLifecycle.Json

inductive Number where
  | integer (value : Int)
  | binary (value : Binary64)
deriving DecidableEq, Repr

inductive Value where
  | null
  | bool (value : Bool)
  | number (value : Number)
  | string (value : String)
  | array (items : List Value)
  | object (members : List (String × Value))
deriving Repr

namespace Value

theorem sizeOf_member_lt {key : String} {item : Value} {members : List (String × Value)}
    (member : (key, item) ∈ members) : sizeOf item < 1 + sizeOf members := by
  have := List.sizeOf_lt_of_mem member
  simp only [Prod.mk.sizeOf_spec] at this
  omega

def insertMember (key : String) (value : Value) :
    List (String × Value) → List (String × Value)
  | [] => [(key, value)]
  | (otherKey, otherValue) :: rest =>
    if key < otherKey then (key, value) :: (otherKey, otherValue) :: rest
    else if key = otherKey then (key, value) :: rest
    else (otherKey, otherValue) :: insertMember key value rest

/-- Members as a keyed map: the last member of each key, keys ascending. -/
def keyedMembers (members : List (String × Value)) : List (String × Value) :=
  members.foldl (fun sorted (key, value) => insertMember key value sorted) []

def canonical : Value → Value
  | .array items => .array (items.attach.map fun ⟨item, _⟩ => canonical item)
  | .object members =>
    .object (keyedMembers (members.attach.map fun ⟨(key, item), member⟩ =>
      have : sizeOf item < 1 + sizeOf members := sizeOf_member_lt member
      (key, canonical item)))
  | other => other

/-- The member of an object with a key: the last one, as a keyed map keeps it. -/
def field? (value : Value) (key : String) : Option Value :=
  match value with
  | .object members => (members.reverse.find? (·.1 == key)).map (·.2)
  | _ => none

end Value

end TopicLifecycle.Json
