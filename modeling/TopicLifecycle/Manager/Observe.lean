/-!
What a topic manager lets observers see: tracing events with a level, a message and optional
`topic` and `error` fields; the fields recorded on the span of a delete request; and log
records of its own at `INFO` and above.
-/

namespace TopicLifecycle.Manager

inductive Level where
  | error
  | warn
  | info
  | debug
deriving DecidableEq, Repr

def Level.name : Level → String
  | .error => "ERROR"
  | .warn => "WARN"
  | .info => "INFO"
  | .debug => "DEBUG"

structure Event where
  level : Level
  message : String
  topic : Option String := none
  error : Option String := none
deriving DecidableEq, Repr

structure LogRecord where
  level : Level
  message : String
deriving DecidableEq, Repr

def deleteSpanName : String := "DeleteTopics"

/-- The fields of the span of a delete request before its outcome is known. -/
def deleteSpanFields (batchSize : Nat) : List (String × String) :=
  [("otel.kind", "client"), ("messaging.system", "kafka"),
    ("messaging.batch.size", toString batchSize)]

def failedSpanFields (message : String) : List (String × String) :=
  [("otel.status_code", "ERROR"), ("otel.status_message", message)]

end TopicLifecycle.Manager
