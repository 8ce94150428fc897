import TopicLifecycle.Duration.Basic
import TopicLifecycle.Text.Blank

/-!
Human-readable durations such as `1h 30m` or `1.5s`: spans of a number and a unit word, every
sum on 64-bit words, an overflow of the carried seconds ending the reading.
-/

namespace TopicLifecycle.Duration

inductive TimeUnit where
  | nanosecond
  | microsecond
  | millisecond
  | second
  | minute
  | hour
  | day
  | week
  | month
  | year
deriving DecidableEq, Repr

def TimeUnit.ofWord? (word : String) : Option TimeUnit :=
  match word with
  | "nanos" | "nsec" | "ns" => some .nanosecond
  | "usec" | "us" | "µs" => some .microsecond
  | "millis" | "msec" | "ms" => some .millisecond
  | "seconds" | "second" | "secs" | "sec" | "s" => some .second
  | "minutes" | "minute" | "min" | "mins" | "m" => some .minute
  | "hours" | "hour" | "hr" | "hrs" | "h" => some .hour
  | "days" | "day" | "d" => some .day
  | "weeks" | "week" | "wk" | "wks" | "w" => some .week
  | "months" | "month" | "M" => some .month
  | "years" | "year" | "yr" | "yrs" | "y" => some .year
  | _ => none

inductive Scale where
  | nanoseconds (count : Nat)
  | seconds (count : Nat)
deriving DecidableEq, Repr

def TimeUnit.wholeScale : TimeUnit → Scale
  | .nanosecond => .nanoseconds 1
  | .microsecond => .nanoseconds 1000
  | .millisecond => .nanoseconds 1000000
  | .second => .seconds 1
  | .minute => .seconds 60
  | .hour => .seconds 3600
  | .day => .seconds 86400
  | .week => .seconds 604800
  | .month => .seconds 2630016
  | .year => .seconds 31557600

/-- Where the fraction of a span is counted; the nanosecond unit takes no fraction, and a
minute's fraction is counted in nanoseconds. -/
def TimeUnit.fractionScale? : TimeUnit → Option Scale
  | .nanosecond => none
  | .second => some (.nanoseconds 1000000000)
  | .minute => some (.nanoseconds 60000000000)
  | unit => some unit.wholeScale

def fitsWord (value : Nat) : Option Nat := if value < Nat.pow 2 64 then some value else none

def exactQuotient (dividend divisor : Nat) : Option Nat :=
  if dividend % divisor = 0 then some (dividend / divisor) else none

structure Fraction where
  numerator : Nat
  denominator : Nat
deriving DecidableEq, Repr

structure Parts where
  secs : Nat
  nanos : Nat
deriving DecidableEq, Repr

def Scale.place (scale : Scale) (value : Nat) : Option Parts :=
  match scale with
  | .nanoseconds count => do pure ⟨0, ← fitsWord (value * count)⟩
  | .seconds count => do pure ⟨← fitsWord (value * count), 0⟩

/-- A fraction placed on its scale: its value times the count must fit a word and divide
exactly by the denominator. -/
def Scale.placeFraction (scale : Scale) (fraction : Fraction) : Option Parts :=
  match scale with
  | .nanoseconds count => do
    pure ⟨0, ← exactQuotient (← fitsWord (fraction.numerator * count)) fraction.denominator⟩
  | .seconds count => do
    pure ⟨← exactQuotient (← fitsWord (fraction.numerator * count)) fraction.denominator, 0⟩

inductive HumanReading where
  | value (duration : Duration)
  | invalid
  /-- A step carried past the largest seconds. -/
  | overflow
deriving DecidableEq

def HumanReading.andThen (reading : HumanReading) (next : Duration → HumanReading) :
    HumanReading :=
  match reading with
  | .value duration => next duration
  | .invalid => .invalid
  | .overflow => .overflow

@[simp] theorem HumanReading.value_andThen (duration : Duration)
    (next : Duration → HumanReading) :
    (HumanReading.value duration).andThen next = next duration := by
  rfl

@[simp] theorem HumanReading.invalid_andThen (next : Duration → HumanReading) :
    HumanReading.invalid.andThen next = .invalid := by
  rfl

@[simp] theorem HumanReading.overflow_andThen (next : Duration → HumanReading) :
    HumanReading.overflow.andThen next = .overflow := by
  rfl

/-- One step: seconds and nanoseconds added to the total, each sum within a word, then the
whole seconds carried out of the nanoseconds, which overflows past the largest seconds. -/
def addParts (total : Duration) (parts : Parts) : HumanReading :=
  match fitsWord (total.nanos + parts.nanos), fitsWord (total.secs + parts.secs) with
  | some nanos, some secs =>
    match ofNanos? (secs * 1000000000 + nanos) with
    | some duration => .value duration
    | none => .overflow
  | _, _ => .invalid

def finishSpan (total : Duration) (whole : Nat) (fraction : Option Fraction) (word : List Char) :
    HumanReading :=
  let parts : Option (Parts × Parts) := do
    let unit ← TimeUnit.ofWord? (String.ofList word)
    let wholeParts ← unit.wholeScale.place whole
    match fraction with
    | none => pure (wholeParts, ⟨0, 0⟩)
    | some fraction => pure (wholeParts, ← (← unit.fractionScale?).placeFraction fraction)
  match parts with
  | none => .invalid
  | some (wholeParts, fractionParts) =>
    (addParts total wholeParts).andThen fun total => addParts total fractionParts

def isUnitLetter (character : Char) : Bool :=
  ('a' ≤ character && character ≤ 'z') || ('A' ≤ character && character ≤ 'Z') ||
    character = 'µ'

def digitValue (character : Char) : Nat := character.toNat - 48

inductive ReadState where
  | between
  | whole (value : Nat)
  | fraction (whole : Nat) (digits : Fraction)
  | unitWord (whole : Nat) (fraction : Option Fraction) (word : List Char)

def readSpans : ReadState → Duration → List Char → HumanReading
  | .between, total, [] => .value total
  | .between, total, character :: rest =>
    if character.isDigit then readSpans (.whole (digitValue character)) total rest
    else if Text.isBlank character then readSpans .between total rest
    else .invalid
  | .whole _, _, [] => .invalid
  | .whole value, total, character :: rest =>
    if character.isDigit then
      match fitsWord (10 * value + digitValue character) with
      | some value => readSpans (.whole value) total rest
      | none => .invalid
    else if Text.isBlank character then readSpans (.whole value) total rest
    else if isUnitLetter character then readSpans (.unitWord value none [character]) total rest
    else if character = '.' then readSpans (.fraction value ⟨0, 1⟩) total rest
    else .invalid
  | .fraction _ _, _, [] => .invalid
  | .fraction whole digits, total, character :: rest =>
    if character.isDigit then
      match fitsWord (10 * digits.numerator + digitValue character),
        fitsWord (10 * digits.denominator) with
      | some numerator, some denominator =>
        readSpans (.fraction whole ⟨numerator, denominator⟩) total rest
      | _, _ => .invalid
    else if Text.isBlank character then readSpans (.fraction whole digits) total rest
    else if isUnitLetter character && digits.denominator != 1 then
      readSpans (.unitWord whole (some digits) [character]) total rest
    else .invalid
  | .unitWord whole fraction word, total, [] => finishSpan total whole fraction word
  | .unitWord whole fraction word, total, character :: rest =>
    if character.isDigit then
      (finishSpan total whole fraction word).andThen fun total =>
        readSpans (.whole (digitValue character)) total rest
    else if Text.isBlank character then
      (finishSpan total whole fraction word).andThen fun total => readSpans .between total rest
    else if isUnitLetter character then
      readSpans (.unitWord whole fraction (word ++ [character])) total rest
    else .invalid

def readHuman (text : String) : HumanReading :=
  if text = "0" then .value zero
  else
    let characters := text.toList
    match characters.dropWhile Text.isBlank with
    | [] => .invalid
    | _ => readSpans .between zero characters

example : readHuman "1h 30m" = .value ⟨5400, 0, by decide, by decide⟩ := by decide

example : readHuman "1. 5s" = .value ⟨1, 500000000, by decide, by decide⟩ := by decide

example : readHuman "18446744073709551615s 1000ms" = .overflow := by decide

end TopicLifecycle.Duration
