import TopicLifecycle.Text.Ranges

/-!
Quoted texts as diagnostics show them.
-/

namespace TopicLifecycle.Text

def hexDigits (value : Nat) : List Char :=
  if value < 16 then [Nat.digitChar value]
  else hexDigits (value / 16) ++ [Nat.digitChar (value % 16)]

def quoteCharacter (character : Char) : List Char :=
  match character with
  | '\x00' => ['\\', '0']
  | '\t' => ['\\', 't']
  | '\r' => ['\\', 'r']
  | '\n' => ['\\', 'n']
  | '\\' => ['\\', '\\']
  | '"' => ['\\', '"']
  | _ =>
    if isEscaped character then ['\\', 'u', '\x7b'] ++ hexDigits character.toNat ++ ['\x7d']
    else [character]

/-- A text between double quotes, escaped as diagnostics show it. -/
def quoted (text : String) : String :=
  String.ofList ('"' :: text.toList.flatMap quoteCharacter ++ ['"'])

example : quoted "a\"b\n" = "\"a\\\"b\\n\"" := by decide

end TopicLifecycle.Text
