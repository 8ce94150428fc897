import TopicLifecycle.Json.Malformed
import TopicLifecycle.Decode.Error

/-!
A cursor over JSON text and the faults raised while reading it, positioned by line and byte
column.
-/

namespace TopicLifecycle.Json

/-- A place in the text: line from 1, column in bytes since the last line break. -/
structure Position where
  line : Nat
  column : Nat
deriving DecidableEq, Repr

structure Cursor where
  rest : List Char
  line : Nat
  column : Nat
deriving DecidableEq, Repr

namespace Cursor

def ofString (text : String) : Cursor := ⟨text.toList, 1, 0⟩

def peek? (cursor : Cursor) : Option Char := cursor.rest.head?

def position (cursor : Cursor) : Position := ⟨cursor.line, cursor.column⟩

def advance : Cursor → Cursor
  | ⟨[], line, column⟩ => ⟨[], line, column⟩
  | ⟨'\n' :: rest, line, _⟩ => ⟨rest, line + 1, 0⟩
  | ⟨character :: rest, line, column⟩ => ⟨rest, line, column + character.utf8Size⟩

def peekPosition (cursor : Cursor) : Position :=
  match cursor.rest with
  | [] => cursor.position
  | '\n' :: _ => ⟨cursor.line + 1, 0⟩
  | _ :: _ => ⟨cursor.line, cursor.column + 1⟩

def positionAfterBytes : List Char → Nat → Nat → Nat → Position
  | _, 0, line, column => ⟨line, column⟩
  | [], _, line, column => ⟨line, column⟩
  | '\n' :: rest, count + 1, line, _ => positionAfterBytes rest count (line + 1) 0
  | character :: rest, count + 1, line, column =>
    if character.utf8Size ≤ count + 1 then
      positionAfterBytes rest (count + 1 - character.utf8Size) line (column + character.utf8Size)
    else ⟨line, column + count + 1⟩
termination_by rest => rest.length

def positionAhead (cursor : Cursor) (count : Nat) : Position :=
  positionAfterBytes cursor.rest count cursor.line cursor.column

def remainingBytes (cursor : Cursor) : Nat :=
  cursor.rest.foldl (fun total character => total + character.utf8Size) 0

def skipWhitespaceFrom : List Char → Nat → Nat → Cursor
  | ' ' :: rest, line, column => skipWhitespaceFrom rest line (column + 1)
  | '\t' :: rest, line, column => skipWhitespaceFrom rest line (column + 1)
  | '\r' :: rest, line, column => skipWhitespaceFrom rest line (column + 1)
  | '\n' :: rest, line, _ => skipWhitespaceFrom rest (line + 1) 0
  | rest, line, column => ⟨rest, line, column⟩

def skipWhitespace (cursor : Cursor) : Cursor :=
  skipWhitespaceFrom cursor.rest cursor.line cursor.column

end Cursor

inductive Cause where
  | malformed (error : Malformed)
  | decode (error : Decode.DecodeError)
deriving DecidableEq, Repr

structure Fault where
  cause : Cause
  position : Option Position
deriving DecidableEq, Repr

namespace Fault

def malformedAt (error : Malformed) (position : Position) : Fault := ⟨.malformed error, some position⟩

def decode (error : Decode.DecodeError) : Fault := ⟨.decode error, none⟩

/-- The fault, placed at `position` unless it has a position already. -/
def fixAt (position : Position) (fault : Fault) : Fault :=
  match fault.position with
  | some _ => fault
  | none => { fault with position := some position }

/-- The fault's message, `at line L column C` added when the position is known. -/
def text (fault : Fault) : String :=
  let message := match fault.cause with
    | .malformed error => error.text
    | .decode error => error.text .json
  match fault.position with
  | some position =>
    message ++ " at line " ++ toString position.line ++ " column " ++ toString position.column
  | none => message

end Fault

/-- The outcome of reading from a cursor: a value and the cursor after it, or a fault and the
cursor where it was raised. -/
abbrev Outcome (α : Type) := Except (Fault × Cursor) (α × Cursor)

def failHere (error : Malformed) (cursor : Cursor) : Outcome α :=
  .error (Fault.malformedAt error cursor.position, cursor)

def failAhead (error : Malformed) (cursor : Cursor) : Outcome α :=
  .error (Fault.malformedAt error cursor.peekPosition, cursor)

def failDecode (error : Decode.DecodeError) (cursor : Cursor) : Outcome α :=
  .error (Fault.decode error, cursor)

def Outcome.fix : Outcome α → Outcome α
  | .error (fault, cursor) => .error (fault.fixAt cursor.position, cursor)
  | success => success

example :
    (Fault.malformedAt .trailingComma ⟨1, 7⟩).text = "trailing comma at line 1 column 7" := by decide

end TopicLifecycle.Json
