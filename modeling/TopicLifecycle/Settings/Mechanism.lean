import TopicLifecycle.Text.Case

/-!
SASL mechanisms. Each has one name, used when it is written and read as a setting, handed to the
client library, and matched (ignoring ASCII case) when it comes from the environment.
-/

namespace TopicLifecycle.Settings

inductive Mechanism where
  | plain
  | scramSha256
  | scramSha512
deriving DecidableEq, Repr, Inhabited

namespace Mechanism

def all : List Mechanism := [.plain, .scramSha256, .scramSha512]

def name : Mechanism → String
  | .plain => "PLAIN"
  | .scramSha256 => "SCRAM-SHA-256"
  | .scramSha512 => "SCRAM-SHA-512"

def names : List String := all.map name

def debugName : Mechanism → String
  | .plain => "Plain"
  | .scramSha256 => "ScramSha256"
  | .scramSha512 => "ScramSha512"

def ofName? (text : String) : Option Mechanism := all.find? fun mechanism => mechanism.name = text

/-- The mechanism whose name is the text in ASCII upper case; nothing is trimmed. -/
def parse? (text : String) : Option Mechanism := ofName? (Text.asciiUpper text)

example : parse? "scram-sha-512" = some .scramSha512 := by decide

end Mechanism

end TopicLifecycle.Settings
