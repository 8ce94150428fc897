import TopicLifecycle.Binary64.Decimal

/-!
Numbers as the client library reads and writes them, following the C library's `strtol`,
`strtod` and `%g`.
-/

namespace TopicLifecycle.ClientLibrary

open Binary64

def isCBlank (character : Char) : Bool :=
  character = ' ' || character = '\t' || character = '\n' || character = '\x0B' ||
    character = '\x0C' || character = '\r'

def digitIn (base : Nat) (character : Char) : Option Nat :=
  let value? :=
    if '0' ≤ character && character ≤ '9' then some (character.toNat - 48)
    else if 'a' ≤ character && character ≤ 'f' then some (character.toNat - 87)
    else if 'A' ≤ character && character ≤ 'F' then some (character.toNat - 55)
    else none
  value?.bind fun value => if value < base then some value else none

def leadingDigits (base : Nat) : List Char → Nat × Nat
  | [] => (0, 0)
  | character :: rest =>
    match digitIn base character with
    | none => (0, 0)
    | some digit =>
      let (value, count) := leadingDigits base rest
      (digit * Nat.pow base count + value, count + 1)

def takeSign : List Char → Bool × List Char
  | '-' :: rest => (true, rest)
  | '+' :: rest => (false, rest)
  | rest => (false, rest)

def hexStart : List Char → Bool
  | '0' :: marker :: digit :: _ => (marker = 'x' || marker = 'X') && (digitIn 16 digit).isSome
  | _ => false

def longMax : Int := (Nat.pow 2 63 : Int) - 1

/-- The number `strtol` reads at the start of a text with base zero, none when it reads no
digit. -/
def readLong (text : List Char) : Option Int :=
  let (negative, unsigned) := takeSign (text.dropWhile isCBlank)
  let (value, count) :=
    if hexStart unsigned then leadingDigits 16 (unsigned.drop 2)
    else match unsigned with
      | '0' :: _ => leadingDigits 8 unsigned
      | _ => leadingDigits 10 unsigned
  if count = 0 then none
  else if negative then some (max (-(value : Int)) (-longMax - 1))
  else some (min (value : Int) longMax)

/-- The low 32 bits of an integer as a signed 32-bit value. -/
def toInt32 (value : Int) : Int :=
  let low := (value % (Nat.pow 2 32 : Int))
  if low ≥ (Nat.pow 2 31 : Int) then low - (Nat.pow 2 32 : Int) else low

def readExponent (characters : List Char) : Option (Int × List Char) :=
  let (negative, unsigned) := takeSign characters
  let (value, count) := leadingDigits 10 unsigned
  if count = 0 then none
  else some (if negative then -(value : Int) else value, unsigned.drop count)

def optionalExponent (markers : List Char) : List Char → Int
  | marker :: rest => if markers.contains marker then ((readExponent rest).map (·.1)).getD 0 else 0
  | [] => 0

def ofBinaryScaled (negative : Bool) (mantissa : Nat) (power : Int) : Binary64 :=
  if mantissa = 0 then zero negative
  else if power + (mantissa.log2 : Int) > 1100 then infinity negative
  else if power + (mantissa.log2 : Int) < -1200 then zero negative
  else if power ≥ 0 then ofRatio negative (mantissa * Nat.pow 2 power.natAbs) 1
  else ofRatio negative mantissa (Nat.pow 2 power.natAbs)

def startsWithWord (word : String) (characters : List Char) : Bool :=
  (characters.take word.length).map Char.toLower == word.toList

/-- The number `strtod` reads at the start of a text, none when it reads nothing. -/
def readDouble (text : List Char) : Option Binary64 :=
  let (negative, unsigned) := takeSign (text.dropWhile isCBlank)
  if startsWithWord "inf" unsigned then some (infinity negative)
  else if startsWithWord "nan" unsigned then some (if negative then nan.neg else nan)
  else if hexStart unsigned ||
      (match unsigned with
        | '0' :: marker :: '.' :: digit :: _ =>
          (marker = 'x' || marker = 'X') && (digitIn 16 digit).isSome
        | _ => false) then
    let afterMarker := unsigned.drop 2
    let (whole, wholeCount) := leadingDigits 16 afterMarker
    let afterWhole := afterMarker.drop wholeCount
    let (fraction, fractionCount, afterFraction) :=
      match afterWhole with
      | '.' :: rest =>
        let (value, count) := leadingDigits 16 rest
        (value, count, rest.drop count)
      | _ => (0, 0, afterWhole)
    let power := optionalExponent ['p', 'P'] afterFraction
    some (ofBinaryScaled negative (whole * Nat.pow 16 fractionCount + fraction)
      (power - 4 * (fractionCount : Int)))
  else
    let (whole, wholeCount) := leadingDigits 10 unsigned
    let afterWhole := unsigned.drop wholeCount
    let (fraction, fractionCount, afterFraction) :=
      match afterWhole with
      | '.' :: rest =>
        let (value, count) := leadingDigits 10 rest
        (value, count, rest.drop count)
      | _ => (0, 0, afterWhole)
    if wholeCount + fractionCount = 0 then none
    else
      let power := optionalExponent ['e', 'E'] afterFraction
      some (ofDecimal negative (whole * Nat.pow 10 fractionCount + fraction)
        (power - (fractionCount : Int)))

def decimalExponent (top bottom : Nat) : Int :=
  let guess : Int := (digitsOf top).length - (digitsOf bottom).length
  let below :=
    if guess ≥ 0 then top < bottom * Nat.pow 10 guess.natAbs
    else top * Nat.pow 10 guess.natAbs < bottom
  if below then guess - 1 else guess

def roundScaled (top bottom : Nat) (shift : Int) : Nat :=
  if shift ≥ 0 then Binary64.roundHalfEven (top * Nat.pow 10 shift.natAbs) bottom
  else Binary64.roundHalfEven top (bottom * Nat.pow 10 shift.natAbs)

/-- Digits with the trailing zeros of their fraction dropped, and the point too when nothing
is left after it. -/
def trimFraction (whole fraction : List Char) : List Char :=
  let kept := (fraction.reverse.dropWhile (· = '0')).reverse
  if kept.isEmpty then whole else whole ++ '.' :: kept

def shortGPositive (top bottom : Nat) : List Char :=
  let estimate := decimalExponent top bottom
  let rounded := roundScaled top bottom (5 - estimate)
  let (digits, exponent) :=
    if rounded = 1000000 then (100000, estimate + 1) else (rounded, estimate)
  let text := digitsOf digits
  if exponent < -4 || exponent ≥ 6 then
    let mantissa := trimFraction (text.take 1) (text.drop 1)
    let magnitude := digitsOf exponent.natAbs
    mantissa ++ 'e' :: (if exponent < 0 then '-' else '+') ::
      (if magnitude.length < 2 then '0' :: magnitude else magnitude)
  else if exponent ≥ 0 then
    trimFraction (text.take (exponent.toNat + 1)) (text.drop (exponent.toNat + 1))
  else
    trimFraction ['0'] (List.replicate (exponent.natAbs - 1) '0' ++ text)

def shortG (value : Binary64) : String :=
  let sign := if value.negative then "-" else ""
  if value.isNaN then sign ++ "nan"
  else if value.isInfinite then sign ++ "inf"
  else if value.isZero then sign ++ "0"
  else
    let (_, top, bottom) := value.toRatio
    sign ++ String.ofList (shortGPositive top bottom)

example : readLong "0x2710".toList = some 10000 := by decide

example : shortG (ofNat 1000000) = "1e+06" := by decide +kernel

end TopicLifecycle.ClientLibrary
