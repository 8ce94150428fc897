import TopicLifecycle.Binary64.Round

/-!
Shortest decimal digits of a binary64 value: the fewest significant digits that read back as
the value, the nearest among them.
-/

namespace TopicLifecycle.Binary64

structure Ratio where
  top : Nat
  bottom : Nat

def Ratio.le (a b : Ratio) : Bool := a.top * b.bottom ≤ b.top * a.bottom

def tenPower (power : Int) : Ratio :=
  if power ≥ 0 then ⟨Nat.pow 10 power.natAbs, 1⟩ else ⟨1, Nat.pow 10 power.natAbs⟩

def twoPower (multiplier : Nat) (power : Int) : Ratio :=
  if power ≥ 0 then ⟨multiplier * Nat.pow 2 power.natAbs, 1⟩ else ⟨multiplier, Nat.pow 2 power.natAbs⟩

def digitCount (value : Nat) : Nat := (Nat.toDigits 10 value).length

/-- The exponent `t` with `10 ^ t ≤ v < 10 ^ (t + 1)` for the positive quotient `v`,
from an estimate through the binary length that is off by at most one. -/
def decimalOrder (value : Ratio) (binaryOrder : Int) : Int :=
  let estimate := Int.fdiv (binaryOrder * 1233) 4096
  let candidates := [estimate + 2, estimate + 1, estimate, estimate - 1, estimate - 2]
  (candidates.find? fun power => (tenPower power).le value).getD (estimate - 2)

/-- Shortest digits of a finite positive value given as `significand · 2 ^ exponent`:
the digits without trailing zeros and the power of ten of the last one. -/
def shortestOf (significand : Nat) (exponent : Int) (lowerGapHalved : Bool) : Nat × Int :=
  let center := 4 * significand
  let low := if lowerGapHalved then center - 1 else center - 2
  let high := center + 2
  let inclusive := significand % 2 == 0
  let unit := exponent - 2
  let order := decimalOrder (twoPower center unit) (significand.log2 + exponent)
  let attempt (count : Nat) : Option (Nat × Int) :=
    let power := order + 1 - count
    let scale := twoPower 1 unit
    let spacing := tenPower power
    let denominator := spacing.top * scale.bottom
    let numeratorOf (units : Nat) := units * scale.top * spacing.bottom
    let lowNumerator := numeratorOf low
    let highNumerator := numeratorOf high
    let centerNumerator := numeratorOf center
    let smallest :=
      if lowNumerator % denominator == 0 && inclusive then lowNumerator / denominator
      else lowNumerator / denominator + 1
    let largest :=
      if highNumerator % denominator == 0 && !inclusive then highNumerator / denominator - 1
      else highNumerator / denominator
    if smallest > largest then none
    else
      let below := centerNumerator / denominator
      let remainder := centerNumerator % denominator
      let nearest :=
        if 2 * remainder > denominator then below + 1
        else if 2 * remainder < denominator then below
        else if below % 2 == 0 then below else below + 1
      let chosen := min (max nearest smallest) largest
      some (chosen, power)
  let found := ((List.range 17).map (· + 1)).findSome? attempt
  let (digits, power) := found.getD (significand, exponent)
  stripZeros digits power
where
  /-- Moves trailing zeros of the digits into the power. -/
  stripZeros (digits : Nat) (power : Int) : Nat × Int :=
    if nonzero : digits ≠ 0 ∧ digits % 10 = 0 then
      have : digits / 10 < digits := Nat.div_lt_self (Nat.pos_of_ne_zero nonzero.1) (by decide)
      stripZeros (digits / 10) (power + 1)
    else (digits, power)
  termination_by digits

def shortest (value : Binary64) : Nat × Int :=
  shortestOf value.significand value.exponent
    (value.fraction = 0 && value.biasedExponent > 1)

example : shortest (ofRatio false 1 10) = (1, -1) := by decide +kernel

end TopicLifecycle.Binary64
