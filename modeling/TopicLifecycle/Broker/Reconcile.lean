import TopicLifecycle.Broker.Outcome

/-!
Matching the answers of a batch request with the requested topics: the first answer for a
topic wins, every distinct requested topic gets one outcome in ascending order, and answers for
topics not requested are dropped.
-/

namespace TopicLifecycle.Broker

def insertDistinct (name : String) : List String → List String
  | [] => [name]
  | first :: rest =>
    if name < first then name :: first :: rest
    else if name = first then first :: rest
    else first :: insertDistinct name rest

def sortedDistinct (names : List String) : List String :=
  names.foldr insertDistinct []

def insertSorted (name : String) : List String → List String
  | [] => [name]
  | first :: rest => if first ≤ name then first :: insertSorted name rest else name :: first :: rest

def sortedNames (names : List String) : List String :=
  names.foldr insertSorted []

/-- A table of answers, ascending by topic, with an answer added for a topic it holds none for;
an answer already held for the topic is kept. -/
def keepFirst (topic : String) (result : TopicResult) :
    List (String × TopicResult) → List (String × TopicResult)
  | [] => [(topic, result)]
  | (first, kept) :: rest =>
    if topic < first then (topic, result) :: (first, kept) :: rest
    else if topic = first then (first, kept) :: rest
    else (first, kept) :: keepFirst topic result rest

def takeAnswer (topic : String) :
    List (String × TopicResult) → Option TopicResult × List (String × TopicResult)
  | [] => (none, [])
  | (first, result) :: rest =>
    if first = topic then (some result, rest)
    else
      let (found, others) := takeAnswer topic rest
      (found, (first, result) :: others)

def answerTable (responses : List TopicResponse) : List (String × TopicResult) :=
  responses.foldl (fun table response => keepFirst response.topic response.result table) []

def outcomeOf : Option TopicResult → TopicOutcome
  | some result => classify result
  | none => .failed .missingResponse

def takeOutcomes (table : List (String × TopicResult)) :
    List String → List (String × TopicOutcome) × List (String × TopicResult)
  | [] => ([], table)
  | topic :: rest =>
    let (result, table) := takeAnswer topic table
    let (outcomes, left) := takeOutcomes table rest
    ((topic, outcomeOf result) :: outcomes, left)

/-- One pass of matching: the outcomes of the distinct requested topics in ascending order, and the
topics of the answers left over, which were not requested. -/
def reconcileRun (requested : List String) (responses : List TopicResponse) :
    List (String × TopicOutcome) × List String :=
  let (outcomes, left) := takeOutcomes (answerTable responses) (sortedDistinct requested)
  (outcomes, left.map Prod.fst)

def reconcile (requested : List String) (responses : List TopicResponse) :
    List (String × TopicOutcome) :=
  (reconcileRun requested responses).1

/-- The topics answered for but not requested, distinct and in ascending order. -/
def droppedTopics (requested : List String) (responses : List TopicResponse) : List String :=
  (reconcileRun requested responses).2

def droppedMessage (topic : String) : String :=
  "Dropping response for topic which was not requested: " ++ topic

end TopicLifecycle.Broker
