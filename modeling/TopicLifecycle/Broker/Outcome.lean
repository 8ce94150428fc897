import TopicLifecycle.Broker.Code

/-!
What became of one topic of a delete request. The broker answers each topic with success or a
response code; a code saying the topic does not exist means there was nothing to delete, any
other code is a failure, and a topic the broker did not answer for at all has failed too.
-/

namespace TopicLifecycle.Broker

inductive TopicResult where
  | ok
  | error (code : ResponseCode)
deriving DecidableEq, Repr

structure TopicResponse where
  topic : String
  result : TopicResult
deriving DecidableEq

inductive TopicFailure where
  | broker (code : ResponseCode)
  | missingResponse
deriving DecidableEq, Repr

def TopicFailure.text : TopicFailure → String
  | .broker code => code.display
  | .missingResponse => "missing response from broker"

inductive TopicOutcome where
  | deleted
  | alreadyAbsent
  | failed (failure : TopicFailure)
deriving DecidableEq, Repr

/-- The outcome of the broker's answer: success deletes, a code meaning the topic does not exist
leaves it absent, any other code fails. -/
def classify : TopicResult → TopicOutcome
  | .ok => .deleted
  | .error code => if code.meansAbsent then .alreadyAbsent else .failed (.broker code)

end TopicLifecycle.Broker
