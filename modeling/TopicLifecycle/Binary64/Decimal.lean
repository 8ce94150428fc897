import TopicLifecycle.Binary64.Shortest

/-!
Decimal text of binary64 values: reading a decimal to the nearest value, and writing the
shortest digits in a positional layout and in a scientific one.
-/

namespace TopicLifecycle.Binary64

def digitsOf (value : Nat) : List Char := Nat.toDigits 10 value

def spanDigits (characters : List Char) : List Char × List Char :=
  (characters.takeWhile Char.isDigit, characters.dropWhile Char.isDigit)

def digitValue (digits : List Char) : Nat :=
  digits.foldl (fun total digit => 10 * total + (digit.toNat - '0'.toNat)) 0

/-- The nearest binary64 value to `digits · 10 ^ power`. Powers far outside the range of the
format are cut short: they give zero or infinity without computing the power. -/
def ofDecimal (negative : Bool) (digits : Nat) (power : Int) : Binary64 :=
  if digits = 0 then zero negative
  else if power + (digitCount digits : Int) > 310 then infinity negative
  else if power + (digitCount digits : Int) < -330 then zero negative
  else if power ≥ 0 then ofRatio negative (digits * Nat.pow 10 power.natAbs) 1
  else ofRatio negative digits (Nat.pow 10 power.natAbs)

def readUnsigned? (negative : Bool) (characters : List Char) : Option Binary64 :=
  let (whole, afterWhole) := spanDigits characters
  let (fractional, afterFraction) :=
    match afterWhole with
    | '.' :: rest => spanDigits rest
    | _ => ([], afterWhole)
  if whole.isEmpty && fractional.isEmpty then none
  else
    let exponent? : Option Int :=
      match afterFraction with
      | [] => some 0
      | marker :: rest =>
        if marker = 'e' ∨ marker = 'E' then
          let (sign, digits) :=
            match rest with
            | '+' :: more => (1, more)
            | '-' :: more => (-1, more)
            | _ => (1, rest)
          if !digits.isEmpty && digits.all Char.isDigit then
            some (sign * (digitValue digits : Int))
          else none
        else none
    exponent?.map fun exponent =>
      ofDecimal negative (digitValue (whole ++ fractional)) (exponent - fractional.length)

def readDecimal? (text : String) : Option Binary64 :=
  let characters := text.toList
  let (negative, unsigned) :=
    match characters with
    | '-' :: rest => (true, rest)
    | '+' :: rest => (false, rest)
    | _ => (false, characters)
  let word := String.ofList (unsigned.map Char.toLower)
  if word = "inf" ∨ word = "infinity" then some (infinity negative)
  else if word = "nan" then some (if negative then nan.neg else nan)
  else readUnsigned? negative unsigned

def zeros (count : Nat) : List Char := List.replicate count '0'

def positionalDigits (digits : Nat) (power : Int) : List Char :=
  let text := digitsOf digits
  let length : Int := text.length
  if power ≥ 0 then text ++ zeros power.natAbs
  else if length + power > 0 then
    text.take (length + power).toNat ++ '.' :: text.drop (length + power).toNat
  else '0' :: '.' :: zeros (-(length + power)).toNat ++ text

/-- The positional text: shortest digits, no exponent, `NaN`, `inf`, `-inf`, `-0`. -/
def positional (value : Binary64) : String :=
  if value.isNaN then "NaN"
  else
    let sign := if value.negative then ['-'] else []
    if value.isInfinite then String.ofList (sign ++ "inf".toList)
    else if value.isZero then String.ofList (sign ++ ['0'])
    else
      let (digits, power) := value.shortest
      String.ofList (sign ++ positionalDigits digits power)

def positionalWithPoint (value : Binary64) : String :=
  let text := positional value
  if value.isFinite && !text.toList.contains '.' then text ++ ".0" else text

def exponentText (power : Int) : List Char :=
  'e' :: (if power < 0 then '-' else '+') :: digitsOf power.natAbs

def scientific (value : Binary64) : String :=
  let sign := if value.negative then ['-'] else []
  if value.isZero then String.ofList (sign ++ "0.0".toList)
  else
    let (digits, power) := value.shortest
    let text := digitsOf digits
    let length : Int := text.length
    let order := length + power
    let body :=
      if 0 ≤ power ∧ order ≤ 16 then text ++ zeros power.natAbs ++ ['.', '0']
      else if 0 < order ∧ order ≤ 16 then
        text.take order.toNat ++ '.' :: text.drop order.toNat
      else if -5 < order ∧ order ≤ 0 then '0' :: '.' :: zeros (-order).toNat ++ text
      else if length = 1 then text ++ exponentText (order - 1)
      else text.take 1 ++ '.' :: text.drop 1 ++ exponentText (order - 1)
    String.ofList (sign ++ body)

example : positional (ofRatio false 1 10) = "0.1" := by decide +kernel

end TopicLifecycle.Binary64
