/-!
Durations: whole seconds below `2 ^ 64` and nanoseconds below one second, with their short
diagnostic text.
-/

namespace TopicLifecycle

/-- A span of time: whole seconds and the nanoseconds beyond them. -/
structure Duration where
  secs : Nat
  nanos : Nat
  secs_lt : secs < Nat.pow 2 64
  nanos_lt : nanos < 1000000000
deriving DecidableEq

namespace Duration

def totalNanos (duration : Duration) : Nat := duration.secs * 1000000000 + duration.nanos

def ofNanos? (total : Nat) : Option Duration :=
  if bound : total / 1000000000 < Nat.pow 2 64 then
    some ⟨total / 1000000000, total % 1000000000, bound, Nat.mod_lt _ (by decide)⟩
  else none

def ofParts? (secs nanos : Nat) : Option Duration :=
  if bounds : secs < Nat.pow 2 64 ∧ nanos < 1000000000 then some ⟨secs, nanos, bounds.1, bounds.2⟩
  else none

def zero : Duration := ⟨0, 0, by decide, by decide⟩

/-- `integer.fraction unit`, the fraction being `fraction / width` written with as many
digits as `width` has zeros, trailing zeros dropped. -/
def decimalText (integer fraction width : Nat) (unit : String) : String :=
  let padded := (Nat.toDigits 10 (width + fraction)).drop 1
  let trimmed := (padded.reverse.dropWhile (· == '0')).reverse
  let fractionText := if fraction = 0 then "" else "." ++ String.ofList trimmed
  toString integer ++ fractionText ++ unit

def text (duration : Duration) : String :=
  if duration.secs > 0 then decimalText duration.secs duration.nanos 1000000000 "s"
  else if duration.nanos ≥ 1000000 then
    decimalText (duration.nanos / 1000000) (duration.nanos % 1000000) 1000000 "ms"
  else if duration.nanos ≥ 1000 then
    decimalText (duration.nanos / 1000) (duration.nanos % 1000) 1000 "µs"
  else decimalText duration.nanos 0 1 "ns"

example : zero.text = "0ns" := by decide

end Duration

end TopicLifecycle
