import TopicLifecycle.Broker.Outcome
import TopicLifecycle.Duration.Basic

/-!
The errors of deleting topics. Either the batch request as a whole failed (the client library
reported an error, or the request timed out), or it was answered and some topics failed; the
failed topics are kept in the order they are given, one message line each.
-/

namespace TopicLifecycle.Broker

inductive ClientError where
  | adminOperation (code : ResponseCode)
  | clientCreation (reason : String)
  | clientConfig (description key value : String)
  | nulCharacter
deriving DecidableEq, Repr

def ClientError.text : ClientError → String
  | .adminOperation code => "Admin operation error: " ++ code.display
  | .clientCreation reason => "Client creation error: " ++ reason
  | .clientConfig description key value =>
    "Client config error: " ++ description ++ " " ++ key ++ " " ++ value
  | .nulCharacter => "FFI nul error"

inductive TransportError where
  | client (error : ClientError)
  | timeout (after : Duration)
deriving DecidableEq

def TransportError.text : TransportError → String
  | .client error => error.text
  | .timeout after => "request timed out after " ++ after.text

structure TopicDeleteError where
  topic : String
  failure : TopicFailure
deriving DecidableEq, Repr

def TopicDeleteError.text (error : TopicDeleteError) : String :=
  "failed to delete topic \"" ++ error.topic ++ "\": " ++ error.failure.text

/-- The failed topics of one batch request; never empty. -/
structure TopicErrors where
  errors : List TopicDeleteError
  nonempty : errors ≠ []

namespace TopicErrors

def join (errors : List TopicDeleteError) : Option TopicErrors :=
  if nonempty : errors = [] then none else some ⟨errors, nonempty⟩

def length (errors : TopicErrors) : Nat := errors.errors.length

def topics (errors : TopicErrors) : List String := errors.errors.map TopicDeleteError.topic

def text (errors : TopicErrors) : String := "\n".intercalate (errors.errors.map TopicDeleteError.text)

end TopicErrors

inductive DeleteError where
  | transport (error : TransportError)
  | topics (errors : TopicErrors)

namespace DeleteError

def text : DeleteError → String
  | .transport error => "failed to delete kafka topics: " ++ error.text
  | .topics errors => errors.text

/-- The failed topics; none when the batch request itself failed. -/
def topicErrors : DeleteError → List TopicDeleteError
  | .transport _ => []
  | .topics errors => errors.errors

end DeleteError

end TopicLifecycle.Broker
