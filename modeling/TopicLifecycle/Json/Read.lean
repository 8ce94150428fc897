import TopicLifecycle.Json.Scan

/-!
Reading whole JSON values from text within a nesting limit, and checking a value without keeping
it.
-/

namespace TopicLifecycle.Json

/-- The nesting allowance of a document: 127 levels of arrays and objects. -/
def depthLimit : Nat := 128

def fuelFor (cursor : Cursor) : Nat := 2 * cursor.rest.length + 4

/-- A text's remaining bytes and line breaks do not matter to a fault reported when the fuel
runs out, which never happens. -/
def outOfFuel (cursor : Cursor) : Outcome α := failHere .endInValue cursor

mutual

def readValue : Nat → Nat → Cursor → Outcome Value
  | 0, _, cursor => outOfFuel cursor
  | fuel + 1, depth, start =>
    let cursor := start.skipWhitespace
    match cursor.rest with
    | [] => failAhead .endInValue cursor
    | 'n' :: _ => (readWord ['u', 'l', 'l'] cursor.advance).map fun (_, after) => (.null, after)
    | 't' :: _ => (readWord ['r', 'u', 'e'] cursor.advance).map fun (_, after) => (.bool true, after)
    | 'f' :: _ =>
      (readWord ['a', 'l', 's', 'e'] cursor.advance).map fun (_, after) => (.bool false, after)
    | '-' :: _ => (readNumber false cursor.advance).map fun (value, after) => (.number value, after)
    | '"' :: _ => (readString cursor.advance).map fun (value, after) => (.string value, after)
    | '[' :: _ =>
      if depth ≤ 1 then failAhead .recursionLimitExceeded cursor
      else
        match readElements fuel (depth - 1) true [] cursor.advance with
        | .ok (items, after) => .ok (.array items, after.skipWhitespace.advance)
        | .error stop => .error stop
    | '{' :: _ =>
      if depth ≤ 1 then failAhead .recursionLimitExceeded cursor
      else
        match readMembers fuel (depth - 1) true [] cursor.advance with
        | .ok (members, after) => .ok (.object members, after.skipWhitespace.advance)
        | .error stop => .error stop
    | character :: _ =>
      if isDigit character then
        (readNumber true cursor).map fun (value, after) => (.number value, after)
      else failAhead .expectedValue cursor

/-- The elements of an array after its opening bracket, up to (not past) the closing one; the
elements read so far are kept in reverse. -/
def readElements : Nat → Nat → Bool → List Value → Cursor → Outcome (List Value)
  | 0, _, _, _, cursor => outOfFuel cursor
  | fuel + 1, depth, first, read, start =>
    let cursor := start.skipWhitespace
    match cursor.rest with
    | [] => failAhead .endInList cursor
    | ']' :: _ => .ok (read.reverse, cursor)
    | ',' :: _ =>
      if first then readElementThen fuel depth read cursor
      else
        let afterComma := cursor.advance.skipWhitespace
        match afterComma.rest with
        | ']' :: _ => failAhead .trailingComma afterComma
        | [] => failAhead .endInValue afterComma
        | _ => readElementThen fuel depth read afterComma
    | _ =>
      if first then readElementThen fuel depth read cursor
      else failAhead .expectedListCommaOrEnd cursor

def readElementThen : Nat → Nat → List Value → Cursor → Outcome (List Value)
  | 0, _, _, cursor => outOfFuel cursor
  | fuel + 1, depth, read, cursor =>
    match readValue fuel depth cursor with
    | .ok (item, after) => readElements fuel depth false (item :: read) after
    | .error stop => .error stop

def readMembers : Nat → Nat → Bool → List (String × Value) → Cursor →
    Outcome (List (String × Value))
  | 0, _, _, _, cursor => outOfFuel cursor
  | fuel + 1, depth, first, read, start =>
    let cursor := start.skipWhitespace
    match cursor.rest with
    | [] => failAhead .endInObject cursor
    | '}' :: _ => .ok (read.reverse, cursor)
    | '"' :: _ =>
      if first then readMemberThen fuel depth read cursor
      else failAhead .expectedObjectCommaOrEnd cursor
    | ',' :: _ =>
      if first then failAhead .keyMustBeString cursor
      else
        let afterComma := cursor.advance.skipWhitespace
        match afterComma.rest with
        | '"' :: _ => readMemberThen fuel depth read afterComma
        | '}' :: _ => failAhead .trailingComma afterComma
        | [] => failAhead .endInValue afterComma
        | _ => failAhead .keyMustBeString afterComma
    | _ =>
      if first then failAhead .keyMustBeString cursor
      else failAhead .expectedObjectCommaOrEnd cursor

def readMemberThen : Nat → Nat → List (String × Value) → Cursor →
    Outcome (List (String × Value))
  | 0, _, _, cursor => outOfFuel cursor
  | fuel + 1, depth, read, cursor =>
    match readString cursor.advance with
    | .error stop => .error stop
    | .ok (key, afterKey) =>
      let beforeColon := afterKey.skipWhitespace
      match beforeColon.rest with
      | ':' :: _ =>
        match readValue fuel depth beforeColon.advance with
        | .ok (item, after) => readMembers fuel depth false ((key, item) :: read) after
        | .error stop => .error stop
      | [] => failAhead .endInObject beforeColon
      | _ => failAhead .expectedColon beforeColon

end

/-- A whole text as one value with nothing but whitespace after it; members stay in the order of
the text. -/
def readText (text : String) : Except Fault Value :=
  let start := Cursor.ofString text
  match readValue (fuelFor start) depthLimit start with
  | .error (fault, _) => .error fault
  | .ok (value, after) =>
    let rest := after.skipWhitespace
    match rest.rest with
    | [] => .ok value
    | _ => .error (Fault.malformedAt .trailingCharacters rest.peekPosition)

/-- Where skipping stands: before a value, after a value or a closed bracket, or just inside an
opened bracket. -/
inductive SkipPlace where
  | value
  | afterValue
  | afterOpen
deriving DecidableEq, Repr

def skipKey (start : Cursor) : Outcome Unit :=
  let cursor := start.skipWhitespace
  match cursor.rest with
  | '"' :: _ =>
    match skipString cursor.advance with
    | .error stop => .error stop
    | .ok (_, afterKey) =>
      let beforeColon := afterKey.skipWhitespace
      match beforeColon.rest with
      | ':' :: _ => .ok ((), beforeColon.advance)
      | [] => failAhead .endInObject beforeColon
      | _ => failAhead .expectedColon beforeColon
  | [] => failAhead .endInObject cursor
  | _ => failAhead .keyMustBeString cursor

def endInside (bracket : Char) : Malformed :=
  if bracket = '[' then .endInList else .endInObject

def expectedCommaOrEnd (bracket : Char) : Malformed :=
  if bracket = '[' then .expectedListCommaOrEnd else .expectedObjectCommaOrEnd

def closing (bracket : Char) : Char := if bracket = '[' then ']' else '}'

def skipLoop : Nat → SkipPlace → List Char → Cursor → Outcome Unit
  | 0, _, _, cursor => outOfFuel cursor
  | fuel + 1, .value, brackets, start =>
    let cursor := start.skipWhitespace
    let after (outcome : Outcome Unit) : Outcome Unit :=
      match outcome with
      | .ok (_, next) => skipLoop fuel .afterValue brackets next
      | .error stop => .error stop
    match cursor.rest with
    | [] => failAhead .endInValue cursor
    | 'n' :: _ => after (readWord ['u', 'l', 'l'] cursor.advance)
    | 't' :: _ => after (readWord ['r', 'u', 'e'] cursor.advance)
    | 'f' :: _ => after (readWord ['a', 'l', 's', 'e'] cursor.advance)
    | '-' :: _ => after (skipNumber cursor.advance)
    | '"' :: _ => after (skipString cursor.advance)
    | '[' :: _ => skipLoop fuel .afterOpen ('[' :: brackets) cursor.advance
    | '{' :: _ => skipLoop fuel .afterOpen ('{' :: brackets) cursor.advance
    | character :: _ =>
      if isDigit character then after (skipNumber cursor) else failAhead .expectedValue cursor
  | _ + 1, .afterValue, [], cursor => .ok ((), cursor)
  | fuel + 1, .afterValue, bracket :: outer, start =>
    let cursor := start.skipWhitespace
    match cursor.rest with
    | [] => failAhead (endInside bracket) cursor
    | ',' :: _ =>
      if bracket = '{' then
        match skipKey cursor.advance with
        | .ok (_, next) => skipLoop fuel .value (bracket :: outer) next
        | .error stop => .error stop
      else skipLoop fuel .value (bracket :: outer) cursor.advance
    | character :: _ =>
      if character = closing bracket then skipLoop fuel .afterValue outer cursor.advance
      else failAhead (expectedCommaOrEnd bracket) cursor
  | fuel + 1, .afterOpen, [], cursor => skipLoop fuel .value [] cursor
  | fuel + 1, .afterOpen, bracket :: outer, start =>
    let cursor := start.skipWhitespace
    match cursor.rest with
    | [] => failAhead (endInside bracket) cursor
    | character :: _ =>
      if character = closing bracket then skipLoop fuel .afterValue outer cursor.advance
      else if bracket = '{' then
        match skipKey cursor with
        | .ok (_, next) => skipLoop fuel .value (bracket :: outer) next
        | .error stop => .error stop
      else skipLoop fuel .value (bracket :: outer) cursor

def skipValue (cursor : Cursor) : Outcome Unit :=
  skipLoop (fuelFor cursor) .value [] cursor

example :
    (match readText "[1,2" with | .error fault => fault.text | .ok _ => "") =
      "EOF while parsing a list at line 1 column 4" := by
  decide +kernel

end TopicLifecycle.Json
