import TopicLifecycle.Json.Value
import TopicLifecycle.Binary64.Decimal
import TopicLifecycle.Text.Quoted

/-!
Compact JSON text of a value.
-/

namespace TopicLifecycle.Json

def escapeCharacter (character : Char) : List Char :=
  match character with
  | '"' => ['\\', '"']
  | '\\' => ['\\', '\\']
  | '\x08' => ['\\', 'b']
  | '\x0c' => ['\\', 'f']
  | '\n' => ['\\', 'n']
  | '\r' => ['\\', 'r']
  | '\t' => ['\\', 't']
  | _ =>
    if character.toNat < 0x20 then
      ['\\', 'u', '0', '0', Nat.digitChar (character.toNat / 16),
        Nat.digitChar (character.toNat % 16)]
    else [character]

def quoteString (text : String) : String :=
  String.ofList ('"' :: text.toList.flatMap escapeCharacter ++ ['"'])

def Number.text : Number → String
  | .integer value => toString value
  | .binary value => if value.isFinite then value.scientific else "null"

/-- Compact JSON text of a value. -/
def Value.write : Value → String
  | .null => "null"
  | .bool true => "true"
  | .bool false => "false"
  | .number value => value.text
  | .string text => quoteString text
  | .array items =>
    "[" ++ ",".intercalate (items.attach.map fun ⟨item, _⟩ => item.write) ++ "]"
  | .object members =>
    "\x7b" ++ ",".intercalate (members.attach.map fun ⟨(key, item), member⟩ =>
      have : sizeOf item < 1 + sizeOf members := Value.sizeOf_member_lt member
      quoteString key ++ ":" ++ item.write) ++ "\x7d"

example : quoteString "a\nb" = "\"a\\nb\"" := by decide

end TopicLifecycle.Json
