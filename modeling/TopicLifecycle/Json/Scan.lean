import TopicLifecycle.Json.Cursor
import TopicLifecycle.Json.Value
import TopicLifecycle.Binary64.Round

/-!
The words of JSON text: literals, strings and numbers, with the fault and position of every way
each can go wrong.
-/

namespace TopicLifecycle.Json

def hexValue? (character : Char) : Option Nat :=
  if '0' ≤ character ∧ character ≤ '9' then some (character.toNat - 48)
  else if 'a' ≤ character ∧ character ≤ 'f' then some (character.toNat - 87)
  else if 'A' ≤ character ∧ character ≤ 'F' then some (character.toNat - 55)
  else none

def fourHex? (first second third fourth : Char) : Option Nat := do
  let first ← hexValue? first
  let second ← hexValue? second
  let third ← hexValue? third
  let fourth ← hexValue? fourth
  pure (((first * 16 + second) * 16 + third) * 16 + fourth)

def isDigit (character : Char) : Bool := '0' ≤ character && character ≤ '9'

def digitOf (character : Char) : Nat := character.toNat - 48

def readWord : List Char → Cursor → Outcome Unit
  | [], cursor => .ok ((), cursor)
  | expected :: word, cursor =>
    match cursor.rest with
    | [] => failHere .endInValue cursor
    | next :: _ =>
      if next = expected then readWord word cursor.advance else failAhead .expectedIdent cursor

/-- The fault of a `\u` escape whose four hexadecimal digits are missing or malformed: the text
ends within four bytes, or it does not, and the fault lies four bytes on. -/
def hexFault (cursor : Cursor) : Outcome α :=
  if cursor.remainingBytes < 4 then .error (Fault.malformedAt .endInString (cursor.positionAhead 4), cursor)
  else .error (Fault.malformedAt .invalidEscape (cursor.positionAhead 4), cursor)

def simpleEscape? : Char → Option Char
  | '"' => some '"'
  | '\\' => some '\\'
  | '/' => some '/'
  | 'b' => some (Char.ofNat 8)
  | 'f' => some (Char.ofNat 12)
  | 'n' => some '\n'
  | 'r' => some '\r'
  | 't' => some '\t'
  | _ => none

def isLeadingSurrogate (code : Nat) : Bool := 0xD800 ≤ code && code ≤ 0xDBFF

def isTrailingSurrogate (code : Nat) : Bool := 0xDC00 ≤ code && code ≤ 0xDFFF

def surrogatePair (leading trailing : Nat) : Nat :=
  0x10000 + (leading - 0xD800) * 1024 + (trailing - 0xDC00)

def readStringFrom : List Char → Nat → Nat → List Char → Outcome String
  | [], line, column, _ => failHere .endInString ⟨[], line, column⟩
  | '"' :: rest, line, column, read => .ok (String.ofList read.reverse, ⟨rest, line, column + 1⟩)
  | '\\' :: rest, line, column, read =>
    match rest with
    | [] => failHere .endInString ⟨[], line, column + 1⟩
    | 'u' :: first :: second :: third :: fourth :: afterHex =>
      match fourHex? first second third fourth with
      | none => hexFault ⟨first :: second :: third :: fourth :: afterHex, line, column + 2⟩
      | some code =>
        if isTrailingSurrogate code then
          failHere .loneLeadingSurrogate ⟨afterHex, line, column + 6⟩
        else if !isLeadingSurrogate code then
          readStringFrom afterHex line (column + 6) (Char.ofNat code :: read)
        else
          match afterHex with
          | '\\' :: 'u' :: first' :: second' :: third' :: fourth' :: afterPair =>
            match fourHex? first' second' third' fourth' with
            | none => hexFault ⟨first' :: second' :: third' :: fourth' :: afterPair, line, column + 8⟩
            | some trailing =>
              if isTrailingSurrogate trailing then
                readStringFrom afterPair line (column + 12)
                  (Char.ofNat (surrogatePair code trailing) :: read)
              else failHere .loneLeadingSurrogate ⟨afterPair, line, column + 12⟩
          | '\\' :: 'u' :: short => hexFault ⟨short, line, column + 8⟩
          | '\\' :: [] => failHere .endInString ⟨[], line, column + 7⟩
          | '\\' :: other => failAhead .unexpectedEndOfHexEscape ⟨other, line, column + 7⟩
          | [] => failHere .endInString ⟨[], line, column + 6⟩
          | other => failAhead .unexpectedEndOfHexEscape ⟨other, line, column + 6⟩
    | 'u' :: short => hexFault ⟨short, line, column + 2⟩
    | escaped :: afterEscape =>
      match simpleEscape? escaped with
      | some character => readStringFrom afterEscape line (column + 2) (character :: read)
      | none => failAhead .invalidEscape ⟨escaped :: afterEscape, line, column + 1⟩
  | character :: rest, line, column, read =>
    if character.toNat < 0x20 then
      failAhead .controlCharacterInString ⟨character :: rest, line, column⟩
    else readStringFrom rest line (column + character.utf8Size) (character :: read)

def readString (cursor : Cursor) : Outcome String :=
  readStringFrom cursor.rest cursor.line cursor.column []

/-- A string after its opening quote, checked but not kept: escapes are checked for their form
only, and a control character is reported where it stands. -/
def skipStringFrom : List Char → Nat → Nat → Outcome Unit
  | [], line, column => failHere .endInString ⟨[], line, column⟩
  | '"' :: rest, line, column => .ok ((), ⟨rest, line, column + 1⟩)
  | '\\' :: rest, line, column =>
    match rest with
    | [] => failHere .endInString ⟨[], line, column + 1⟩
    | 'u' :: first :: second :: third :: fourth :: afterHex =>
      match fourHex? first second third fourth with
      | none => hexFault ⟨first :: second :: third :: fourth :: afterHex, line, column + 2⟩
      | some _ => skipStringFrom afterHex line (column + 6)
    | 'u' :: short => hexFault ⟨short, line, column + 2⟩
    | escaped :: afterEscape =>
      match simpleEscape? escaped with
      | some _ => skipStringFrom afterEscape line (column + 2)
      | none => failAhead .invalidEscape ⟨escaped :: afterEscape, line, column + 1⟩
  | character :: rest, line, column =>
    if character.toNat < 0x20 then failHere .controlCharacterInString ⟨character :: rest, line, column⟩
    else skipStringFrom rest line (column + character.utf8Size)

def skipString (cursor : Cursor) : Outcome Unit :=
  skipStringFrom cursor.rest cursor.line cursor.column

/-! ## Numbers -/

def wordMax : Nat := Nat.pow 2 64 - 1

def exponentMax : Nat := Nat.pow 2 31 - 1

def saturate (exponent : Int) : Int :=
  max (-(Nat.pow 2 31 : Int)) (min ((Nat.pow 2 31 : Int) - 1) exponent)

def powerOfTen (power : Nat) : Binary64 := Binary64.ofRatio false (Nat.pow 10 power) 1

/-- A binary64 scaled by `10^exponent`: one multiplication or division by a power of ten up to
`10^308`, after dividing by `10^308` as often as needed; `none` when the result overflows. -/
def scaleByPower (value : Binary64) (exponent : Int) : Option Binary64 :=
  if -308 ≤ exponent ∧ exponent ≤ 308 then
    if 0 ≤ exponent then
      let product := value.mul (powerOfTen exponent.toNat)
      if product.isInfinite then none else some product
    else some (value.div (powerOfTen (-exponent).toNat))
  else if value.isZero then some value
  else if 0 ≤ exponent then none
  else scaleByPower (value.div (powerOfTen 308)) (exponent + 308)
termination_by (-exponent).toNat
decreasing_by omega

def fromParts (positive : Bool) (significand : Nat) (exponent : Int) (cursor : Cursor) :
    Outcome Binary64 :=
  match scaleByPower (Binary64.ofNat significand) exponent with
  | some value => .ok (if positive then value else value.neg, cursor)
  | none => failHere .numberOutOfRange cursor

def skipDigits : List Char → Nat → Nat → Cursor
  | character :: rest, line, column =>
    if isDigit character then skipDigits rest line (column + 1) else ⟨character :: rest, line, column⟩
  | [], line, column => ⟨[], line, column⟩

/-- An exponent too large for 32 bits: out of range when it would make a nonzero value grow,
otherwise the remaining digits are skipped and the value is zero. -/
def exponentOverflow (positive zeroSignificand positiveExponent : Bool) (cursor : Cursor) :
    Outcome Binary64 :=
  if !zeroSignificand && positiveExponent then failHere .numberOutOfRange cursor
  else .ok (Binary64.zero (!positive), skipDigits cursor.rest cursor.line cursor.column)

def readExponentDigits (positive : Bool) (significand : Nat) (startingExponent : Int)
    (positiveExponent : Bool) : Nat → List Char → Nat → Nat → Outcome Binary64
  | exponent, character :: rest, line, column =>
    if isDigit character then
      if exponent * 10 + digitOf character > exponentMax then
        exponentOverflow positive (significand == 0) positiveExponent ⟨rest, line, column + 1⟩
      else
        readExponentDigits positive significand startingExponent positiveExponent
          (exponent * 10 + digitOf character) rest line (column + 1)
    else
      fromParts positive significand
        (saturate (if positiveExponent then startingExponent + exponent
          else startingExponent - exponent))
        ⟨character :: rest, line, column⟩
  | exponent, [], line, column =>
    fromParts positive significand
      (saturate (if positiveExponent then startingExponent + exponent
        else startingExponent - exponent))
      ⟨[], line, column⟩

def readExponent (positive : Bool) (significand : Nat) (startingExponent : Int)
    (cursor : Cursor) : Outcome Binary64 :=
  let afterMark := cursor.advance
  let (positiveExponent, afterSign) := match afterMark.rest with
    | '+' :: _ => (true, afterMark.advance)
    | '-' :: _ => (false, afterMark.advance)
    | _ => (true, afterMark)
  match afterSign.rest with
  | [] => failHere .endInValue afterSign
  | character :: rest =>
    if isDigit character then
      readExponentDigits positive significand startingExponent positiveExponent
        (digitOf character) rest afterSign.line (afterSign.column + 1)
    else failAhead .invalidNumber afterSign

def afterDigits (positive : Bool) (significand : Nat) (exponent : Int) (cursor : Cursor) :
    Outcome Binary64 :=
  match cursor.rest with
  | 'e' :: _ | 'E' :: _ => readExponent positive significand exponent cursor
  | _ => fromParts positive significand exponent cursor

/-- The digits after a decimal point, at least one; digits that no longer fit the significand
are skipped. -/
def readFraction (positive : Bool) (exponentBefore : Int) :
    Nat → Nat → List Char → Nat → Nat → Outcome Binary64
  | significand, afterPoint, character :: rest, line, column =>
    if isDigit character then
      if significand * 10 + digitOf character > wordMax then
        afterDigits positive significand (exponentBefore - afterPoint)
          (skipDigits (character :: rest) line column)
      else
        readFraction positive exponentBefore (significand * 10 + digitOf character)
          (afterPoint + 1) rest line (column + 1)
    else if afterPoint = 0 then failAhead .invalidNumber ⟨character :: rest, line, column⟩
    else
      afterDigits positive significand (exponentBefore - afterPoint) ⟨character :: rest, line, column⟩
  | significand, afterPoint, [], line, column =>
    if afterPoint = 0 then failHere .endInValue ⟨[], line, column⟩
    else afterDigits positive significand (exponentBefore - afterPoint) ⟨[], line, column⟩

def readLongInteger (positive : Bool) (significand : Nat) :
    Nat → List Char → Nat → Nat → Outcome Binary64
  | exponent, character :: rest, line, column =>
    if isDigit character then readLongInteger positive significand (exponent + 1) rest line (column + 1)
    else if character = '.' then
      readFraction positive exponent significand 0 rest line (column + 1)
    else afterDigits positive significand exponent ⟨character :: rest, line, column⟩
  | exponent, [], line, column => fromParts positive significand exponent ⟨[], line, column⟩

/-- What follows the integer part of a number: a fraction, an exponent, or nothing, which keeps it
an integer: unsigned, or negative down to `-2^63`; `-0` and smaller negatives become binary64. -/
def numberTail (positive : Bool) (significand : Nat) (cursor : Cursor) : Outcome Number :=
  let binary (outcome : Outcome Binary64) : Outcome Number :=
    outcome.map fun (value, after) => (.binary value, after)
  match cursor.rest with
  | '.' :: rest => binary (readFraction positive 0 significand 0 rest cursor.line (cursor.column + 1))
  | 'e' :: _ | 'E' :: _ => binary (readExponent positive significand 0 cursor)
  | _ =>
    if positive then .ok (.integer significand, cursor)
    else if significand = 0 ∨ significand > Nat.pow 2 63 then
      .ok (.binary (Binary64.ofNat significand).neg, cursor)
    else .ok (.integer (-(significand : Int)), cursor)

def readIntegerDigits (positive : Bool) : Nat → List Char → Nat → Nat → Outcome Number
  | significand, character :: rest, line, column =>
    if isDigit character then
      if significand * 10 + digitOf character > wordMax then
        (readLongInteger positive significand 0 (character :: rest) line column).map
          fun (value, after) => (.binary value, after)
      else readIntegerDigits positive (significand * 10 + digitOf character) rest line (column + 1)
    else numberTail positive significand ⟨character :: rest, line, column⟩
  | significand, [], line, column => numberTail positive significand ⟨[], line, column⟩

def readNumber (positive : Bool) (cursor : Cursor) : Outcome Number :=
  match cursor.rest with
  | [] => failHere .endInValue cursor
  | '0' :: rest =>
    match rest with
    | next :: _ =>
      if isDigit next then failAhead .invalidNumber ⟨rest, cursor.line, cursor.column + 1⟩
      else numberTail positive 0 ⟨rest, cursor.line, cursor.column + 1⟩
    | [] => numberTail positive 0 ⟨rest, cursor.line, cursor.column + 1⟩
  | character :: rest =>
    if isDigit character then
      readIntegerDigits positive (digitOf character) rest cursor.line (cursor.column + 1)
    else failAhead .invalidNumber cursor

def skipExponent (cursor : Cursor) : Outcome Unit :=
  let afterMark := cursor.advance
  let afterSign := match afterMark.rest with
    | '+' :: _ | '-' :: _ => afterMark.advance
    | _ => afterMark
  match afterSign.rest with
  | [] => failHere .invalidNumber afterSign
  | character :: rest =>
    if isDigit character then .ok ((), skipDigits rest afterSign.line (afterSign.column + 1))
    else failAhead .invalidNumber afterSign

def skipNumberTail (cursor : Cursor) : Outcome Unit :=
  match cursor.rest with
  | '.' :: rest =>
    match rest with
    | next :: _ =>
      if isDigit next then
        let afterFraction := skipDigits rest cursor.line (cursor.column + 1)
        match afterFraction.rest with
        | 'e' :: _ | 'E' :: _ => skipExponent afterFraction
        | _ => .ok ((), afterFraction)
      else failAhead .invalidNumber ⟨rest, cursor.line, cursor.column + 1⟩
    | [] => failHere .invalidNumber ⟨[], cursor.line, cursor.column + 1⟩
  | 'e' :: _ | 'E' :: _ => skipExponent cursor
  | _ => .ok ((), cursor)

def skipNumber (cursor : Cursor) : Outcome Unit :=
  match cursor.rest with
  | [] => failHere .invalidNumber cursor
  | '0' :: rest =>
    match rest with
    | next :: _ =>
      if isDigit next then failAhead .invalidNumber ⟨rest, cursor.line, cursor.column + 1⟩
      else skipNumberTail ⟨rest, cursor.line, cursor.column + 1⟩
    | [] => skipNumberTail ⟨rest, cursor.line, cursor.column + 1⟩
  | character :: rest =>
    if isDigit character then skipNumberTail (skipDigits rest cursor.line (cursor.column + 1))
    else failAhead .invalidNumber cursor

end TopicLifecycle.Json
