import TopicLifecycle.Manager.Observe
import TopicLifecycle.Broker.Reconcile
import TopicLifecycle.Broker.Failure

/-!
Deleting a batch of topics with one request, and the report, events and span it shows.
-/

namespace TopicLifecycle.Manager

open Broker

structure DeleteOptions where
  requestTimeout : Option Duration := none
  operationTimeout : Option Duration := none
deriving DecidableEq

inductive AdminReply where
  | answered (responses : List TopicResponse)
  | failed (error : ClientError)
  | silent

structure DeleteReport where
  /-- The names sent to the admin, if a request was made. -/
  request : Option (List String)
  result : Except DeleteError Unit
  events : List Event
  spanFields : List (String × String)
  logs : List LogRecord

def outcomeEvent (topic : String) : TopicOutcome → Event
  | .deleted => { level := .info, message := "deleted kafka topic", topic := some topic }
  | .alreadyAbsent => { level := .debug, message := "kafka topic does not exist", topic := some topic }
  | .failed failure =>
    { level := .warn, message := "failed to delete kafka topic", topic := some topic,
      error := some failure.text }

def failedTopics (outcomes : List (String × TopicOutcome)) : List TopicDeleteError :=
  outcomes.filterMap fun
    | (topic, .failed failure) => some ⟨topic, failure⟩
    | _ => none

def transportReport (batchSize : Nat) (names : List String) (error : TransportError) : DeleteReport :=
  { request := some names
    result := .error (.transport error)
    events := [{ level := .warn, message := "DeleteTopics returned an error", error := some error.text }]
    spanFields := deleteSpanFields batchSize ++ failedSpanFields "DeleteTopics returned an error"
    logs := [] }

def answeredReport (batchSize : Nat) (names : List String) (responses : List TopicResponse) :
    DeleteReport :=
  let outcomes := reconcile names responses
  let failures := failedTopics outcomes
  { request := some names
    result := match TopicErrors.join failures with
      | some errors => .error (.topics errors)
      | none => .ok ()
    events := outcomes.map fun (topic, outcome) => outcomeEvent topic outcome
    spanFields := deleteSpanFields batchSize ++
      (if failures.isEmpty then [] else failedSpanFields "failed to delete one or more topic")
    logs := (droppedTopics names responses).map fun topic =>
      { level := .warn, message := droppedMessage topic } }

/-- Deleting topics: the report, or none when the admin stays silent and there is no request
timeout, so the request never completes. -/
def deleteTopics (options : DeleteOptions) (admin : List String → DeleteOptions → AdminReply)
    (topics : List String) : Option DeleteReport :=
  let names := sortedDistinct topics
  if names.isEmpty then
    some
      { request := none
        result := .ok ()
        events := [{ level := .debug, message := "No topics to delete" }]
        spanFields := deleteSpanFields topics.length
        logs := [] }
  else
    match admin names options with
    | .answered responses => some (answeredReport topics.length names responses)
    | .failed error => some (transportReport topics.length names (.client error))
    | .silent =>
      options.requestTimeout.map fun timeout => transportReport topics.length names (.timeout timeout)

end TopicLifecycle.Manager
