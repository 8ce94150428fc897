/-!
Binary64 numbers kept as their 64-bit pattern and read as sign, biased exponent and fraction,
so that no operation depends on a floating-point unit.
-/

namespace TopicLifecycle

/-- A binary64 value, as its bit pattern. -/
structure Binary64 where
  bits : UInt64
deriving DecidableEq, Repr

namespace Binary64

def negative (value : Binary64) : Bool := value.bits.toNat ≥ Nat.pow 2 63

def biasedExponent (value : Binary64) : Nat := (value.bits.toNat / Nat.pow 2 52) % Nat.pow 2 11

def fraction (value : Binary64) : Nat := value.bits.toNat % Nat.pow 2 52

def isNaN (value : Binary64) : Bool := value.biasedExponent == 2047 && value.fraction != 0

def isInfinite (value : Binary64) : Bool := value.biasedExponent == 2047 && value.fraction == 0

def isFinite (value : Binary64) : Bool := value.biasedExponent != 2047

def isZero (value : Binary64) : Bool := value.biasedExponent == 0 && value.fraction == 0

def significand (value : Binary64) : Nat :=
  if value.biasedExponent = 0 then value.fraction else value.fraction + Nat.pow 2 52

def exponent (value : Binary64) : Int :=
  if value.biasedExponent = 0 then -1074 else (value.biasedExponent : Int) - 1075

def ofFields (negative : Bool) (biasedExponent fraction : Nat) : Binary64 :=
  ⟨UInt64.ofNat ((if negative then Nat.pow 2 63 else 0) + biasedExponent * Nat.pow 2 52 + fraction)⟩

def zero (negative : Bool) : Binary64 := ofFields negative 0 0

def infinity (negative : Bool) : Binary64 := ofFields negative 2047 0

def nan : Binary64 := ofFields false 2047 (Nat.pow 2 51)

def neg (value : Binary64) : Binary64 :=
  ofFields (!value.negative) value.biasedExponent value.fraction

def bitsHex (value : Binary64) : String :=
  let digit (index : Nat) : Char := Nat.digitChar ((value.bits.toNat / Nat.pow 16 (15 - index)) % 16)
  String.ofList ((List.range 16).map digit)

/-- Lies in the closed interval from zero to one; both zeros count, NaN does not. -/
def inUnitInterval (value : Binary64) : Bool :=
  value.isZero || (!value.negative && value.bits.toNat ≤ 0x3FF0000000000000)

example : bitsHex (ofFields false 1023 0) = "3ff0000000000000" := by decide

end Binary64

end TopicLifecycle
