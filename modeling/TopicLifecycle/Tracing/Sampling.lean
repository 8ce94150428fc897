import TopicLifecycle.Binary64.Decimal
import TopicLifecycle.Text.Blank

/-!
The sampling ratio of traces, read from a setting: the text trimmed and read as a binary64,
kept when it lies between 0 and 1 (both included), and 0.001 otherwise, also when the setting is
absent or not a number.
-/

namespace TopicLifecycle.Tracing

def defaultRatio : Binary64 := Binary64.ofRatio false 1 1000

def samplingRatio (setting : Option String) : Binary64 :=
  match setting.bind fun text => Binary64.readDecimal? (Text.trimBlank text) with
  | some ratio => if ratio.inUnitInterval then ratio else defaultRatio
  | none => defaultRatio

example : samplingRatio none = defaultRatio := rfl

end TopicLifecycle.Tracing
