import TopicLifecycle.Manager.Delete

/-!
A scripted broker for exercising a manager without a cluster: it deletes the requested topics
it holds and answers the others as scripted or as unknown. It answers a request in one atomic
step, so concurrent calls behave as the calls taken one by one in the order they reach it.
-/

namespace TopicLifecycle.Admin

open Broker Manager

structure ScriptedBroker where
  /-- The existing topics, ascending; none means every topic exists. -/
  existing : Option (List String)
  codes : List (String × ResponseCode) := []
  omitted : List String := []
  prepended : List TopicResponse := []
  appended : List TopicResponse := []
  reversed : Bool := false

structure Call where
  topics : List String
  failure : Option ResponseCode := none
  hang : Bool := false

def unknownTopicCode : ResponseCode :=
  (ResponseCode.ofCode? ResponseCode.unknownTopicOrPartition).getD ⟨3, "UnknownTopicOrPartition",
    "Broker: Unknown topic or partition"⟩

def answerNames (broker : ScriptedBroker) :
    Option (List String) → List String → List TopicResponse × Option (List String)
  | existing, [] => ([], existing)
  | existing, name :: rest =>
    let (answer, existing) :=
      if broker.omitted.contains name then (none, existing)
      else match (broker.codes.find? fun (topic, _) => topic = name) with
        | some (_, code) => (some (TopicResponse.mk name (.error code)), existing)
        | none =>
          match existing with
          | none => (some ⟨name, .ok⟩, none)
          | some topics =>
            if topics.contains name then (some ⟨name, .ok⟩, some (topics.erase name))
            else (some ⟨name, .error unknownTopicCode⟩, some topics)
    let (answers, left) := answerNames broker existing rest
    (answer.toList ++ answers, left)

def ScriptedBroker.reply (broker : ScriptedBroker) (call : Call) (names : List String) :
    AdminReply × ScriptedBroker :=
  if call.hang then (.silent, broker)
  else
    match call.failure with
    | some code => (.failed (.adminOperation code), broker)
    | none =>
      let (answers, existing) := answerNames broker broker.existing names
      let responses := broker.prepended ++ answers ++ broker.appended
      (.answered (if broker.reversed then responses.reverse else responses), { broker with existing })

/-- One call on a manager whose admin is the scripted broker: the report (none when the request
never completes) and the broker after it. -/
def runCall (options : DeleteOptions) (broker : ScriptedBroker) (call : Call) :
    Option DeleteReport × ScriptedBroker :=
  let names := sortedDistinct call.topics
  (deleteTopics options (fun names _ => (broker.reply call names).1) call.topics,
    if names.isEmpty then broker else (broker.reply call names).2)

/-- Calls on one manager whose requests reach the broker in this order: the report of each call
and the broker after the last. -/
def serveCalls (options : DeleteOptions) :
    ScriptedBroker → List Call → List (Option DeleteReport) × ScriptedBroker
  | broker, [] => ([], broker)
  | broker, call :: calls =>
    let (report, after) := runCall options broker call
    let (reports, last) := serveCalls options after calls
    (report :: reports, last)

end TopicLifecycle.Admin
