import TopicLifecycle.Binary64.Basic

/-!
Rounding an exact quotient of naturals to the nearest binary64, ties to even, with subnormals
and infinities; reading, conversion and arithmetic all go through it.
-/

namespace TopicLifecycle.Binary64

def scaled (numerator : Nat) (scale : Int) : Nat × Nat :=
  if scale ≤ 0 then (numerator * Nat.pow 2 scale.natAbs, 1) else (numerator, Nat.pow 2 scale.natAbs)

def roundHalfEven (numerator denominator : Nat) : Nat :=
  let quotient := numerator / denominator
  let twiceRemainder := 2 * (numerator % denominator)
  if twiceRemainder > denominator || (twiceRemainder == denominator && quotient % 2 == 1) then
    quotient + 1
  else quotient

/-- The exponent of the last significand bit for the quotient: the largest power of two
`2 ^ e` with `numerator / denominator ≥ 2 ^ (e + 52)`, but not below `-1074`. -/
def unitExponent (numerator denominator : Nat) : Int :=
  let estimate : Int := (numerator.log2 : Int) - (denominator.log2 : Int) - 52
  let (top, bottom) := scaled numerator estimate
  let fits := top ≥ Nat.pow 2 52 * (bottom * denominator)
  max (if fits then estimate else estimate - 1) (-1074)

/-- The binary64 value nearest to `numerator / denominator`, with the given sign. -/
def ofRatio (negative : Bool) (numerator denominator : Nat) : Binary64 :=
  if numerator = 0 ∨ denominator = 0 then zero negative
  else
    let unit := unitExponent numerator denominator
    let (top, bottom) := scaled numerator unit
    let rounded := roundHalfEven top (bottom * denominator)
    let (significand, unit) :=
      if rounded = Nat.pow 2 53 then (Nat.pow 2 52, unit + 1) else (rounded, unit)
    if significand < Nat.pow 2 52 then ofFields negative 0 significand
    else
      let biased := unit + 1075
      if biased ≥ 2047 then infinity negative
      else ofFields negative biased.toNat (significand - Nat.pow 2 52)

def ofNat (value : Nat) : Binary64 := ofRatio false value 1

def toRatio (value : Binary64) : Bool × Nat × Nat :=
  let (top, bottom) := scaled value.significand (-value.exponent)
  (value.negative, top, bottom)

def mul (left right : Binary64) : Binary64 :=
  let (leftNegative, leftTop, leftBottom) := left.toRatio
  let (rightNegative, rightTop, rightBottom) := right.toRatio
  ofRatio (leftNegative != rightNegative) (leftTop * rightTop) (leftBottom * rightBottom)

def div (left right : Binary64) : Binary64 :=
  let (leftNegative, leftTop, leftBottom) := left.toRatio
  let (rightNegative, rightTop, rightBottom) := right.toRatio
  ofRatio (leftNegative != rightNegative) (leftTop * rightBottom) (leftBottom * rightTop)

example : (ofRatio false 1 10).bits = 0x3FB999999999999A := by decide

end TopicLifecycle.Binary64
