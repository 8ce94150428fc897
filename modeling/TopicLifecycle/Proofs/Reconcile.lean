import Mathlib.Data.String.Basic
import Mathlib.Data.List.Sort
import TopicLifecycle.Broker.Reconcile

/-!
Correctness of matching the answers of a batch request with the requested topics.
-/

namespace TopicLifecycle.Broker

/-! ### Distinct names in ascending order -/

theorem mem_insertDistinct {name topic : String} {names : List String} :
    topic ∈ insertDistinct name names ↔ topic = name ∨ topic ∈ names := by
  induction names with
  | nil => simp [insertDistinct]
  | cons first rest ih =>
      unfold insertDistinct
      split
      · simp
      · split
        · next same =>
          subst same
          simp
        · simp only [List.mem_cons, ih]
          tauto

theorem insertDistinct_ascending {name : String} {names : List String}
    (ascending : names.Pairwise (· < ·)) : (insertDistinct name names).Pairwise (· < ·) := by
  induction names with
  | nil => simp [insertDistinct]
  | cons first rest ih =>
      rw [List.pairwise_cons] at ascending
      unfold insertDistinct
      split
      · next below =>
        refine List.Pairwise.cons ?_ (List.Pairwise.cons ascending.1 ascending.2)
        intro other member
        rcases List.mem_cons.mp member with rfl | later
        · exact below
        · exact lt_trans below (ascending.1 other later)
      · split
        · exact List.Pairwise.cons ascending.1 ascending.2
        · next notBelow notSame =>
          refine List.Pairwise.cons ?_ (ih ascending.2)
          intro other member
          rcases mem_insertDistinct.mp member with rfl | later
          · exact lt_of_le_of_ne (not_lt.mp notBelow) (Ne.symm notSame)
          · exact ascending.1 other later

theorem sortedDistinct_cons (name : String) (names : List String) :
    sortedDistinct (name :: names) = insertDistinct name (sortedDistinct names) := rfl

@[simp] theorem mem_sortedDistinct {topic : String} {names : List String} :
    topic ∈ sortedDistinct names ↔ topic ∈ names := by
  induction names with
  | nil => simp [sortedDistinct]
  | cons name rest ih => rw [sortedDistinct_cons, mem_insertDistinct, ih, List.mem_cons]

theorem sortedDistinct_ascending (names : List String) :
    (sortedDistinct names).Pairwise (· < ·) := by
  induction names with
  | nil => simp [sortedDistinct]
  | cons name rest ih => exact insertDistinct_ascending ih

theorem sortedDistinct_nodup (names : List String) : (sortedDistinct names).Nodup :=
  (sortedDistinct_ascending names).imp ne_of_lt

theorem sortedDistinct_eq_of_mem_iff {names others : List String}
    (same : ∀ topic, topic ∈ names ↔ topic ∈ others) :
    sortedDistinct names = sortedDistinct others :=
  (sortedDistinct_ascending names).eq_of_mem_iff (sortedDistinct_ascending others)
    (by simpa using same)

example : sortedDistinct ["c", "a", "b", "a"] = ["a", "b", "c"] := by
  decide +kernel

theorem sortedDistinct_of_ascending {names : List String} (ascending : names.Pairwise (· < ·)) :
    sortedDistinct names = names :=
  (sortedDistinct_ascending names).eq_of_mem_iff ascending (by simp)

theorem sortedDistinct_eq_nil_iff {names : List String} :
    sortedDistinct names = [] ↔ names = [] := by
  simp only [List.eq_nil_iff_forall_not_mem, mem_sortedDistinct]

/-! ### The answer table -/

def TableAscending (table : List (String × TopicResult)) : Prop :=
  (table.map Prod.fst).Pairwise (· < ·)

theorem tableAscending_nil : TableAscending [] := List.Pairwise.nil

def answerIn (table : List (String × TopicResult)) (topic : String) : Option TopicResult :=
  (table.find? fun entry => entry.1 = topic).map Prod.snd

@[simp] theorem answerIn_nil (topic : String) : answerIn [] topic = none := rfl

@[simp] theorem answerIn_cons (first topic : String) (result : TopicResult)
    (rest : List (String × TopicResult)) :
    answerIn ((first, result) :: rest) topic =
      if first = topic then some result else answerIn rest topic := by
  by_cases same : first = topic <;> simp [answerIn, same]

theorem answerIn_eq_none_iff {table : List (String × TopicResult)} {topic : String} :
    answerIn table topic = none ↔ topic ∉ table.map Prod.fst := by
  induction table with
  | nil => simp
  | cons entry rest ih =>
      obtain ⟨first, result⟩ := entry
      by_cases same : first = topic
      · simp [same]
      · simp [same, ih, Ne.symm same]

theorem keepFirst_topics (topic : String) (result : TopicResult)
    (table : List (String × TopicResult)) :
    (keepFirst topic result table).map Prod.fst = insertDistinct topic (table.map Prod.fst) := by
  induction table with
  | nil => rfl
  | cons entry rest ih =>
      obtain ⟨first, kept⟩ := entry
      simp only [keepFirst, insertDistinct, List.map_cons]
      split
      · rfl
      · split
        · rfl
        · rw [List.map_cons, ih]

theorem keepFirst_ascending {topic : String} {result : TopicResult}
    {table : List (String × TopicResult)} (ascending : TableAscending table) :
    TableAscending (keepFirst topic result table) := by
  unfold TableAscending at ascending ⊢
  rw [keepFirst_topics]
  exact insertDistinct_ascending ascending

theorem answerIn_keepFirst {topic : String} {result : TopicResult}
    {table : List (String × TopicResult)} (ascending : TableAscending table) (other : String) :
    answerIn (keepFirst topic result table) other =
      (answerIn table other).or (if other = topic then some result else none) := by
  induction table with
  | nil => by_cases same : other = topic <;> simp [keepFirst, same, Ne.symm]
  | cons entry rest ih =>
      obtain ⟨first, kept⟩ := entry
      have later : ∀ key ∈ rest.map Prod.fst, first < key :=
        (List.pairwise_cons.mp ascending).1
      unfold keepFirst
      split
      · next below =>
        by_cases same : other = topic
        · subst same
          have absent : answerIn ((first, kept) :: rest) other = none := by
            rw [answerIn_eq_none_iff, List.map_cons, List.mem_cons, not_or]
            exact ⟨ne_of_lt below, fun member => lt_asymm below (later other member)⟩
          rw [answerIn_cons, if_pos rfl, absent, Option.none_or, if_pos rfl]
        · simp [same, Ne.symm same]
      · split
        · next same =>
          subst same
          by_cases hit : topic = other
          · simp [hit]
          · simp [hit, Ne.symm hit]
        · by_cases hit : first = other
          · simp [hit]
          · simp only [answerIn_cons, hit, if_false]
            exact ih (List.pairwise_cons.mp ascending).2

theorem takeAnswer_cons (first topic : String) (result : TopicResult)
    (rest : List (String × TopicResult)) :
    takeAnswer topic ((first, result) :: rest) =
      if first = topic then (some result, rest)
      else ((takeAnswer topic rest).1, (first, result) :: (takeAnswer topic rest).2) := rfl

theorem takeAnswer_found (topic : String) (table : List (String × TopicResult)) :
    (takeAnswer topic table).1 = answerIn table topic := by
  induction table with
  | nil => rfl
  | cons entry rest ih =>
      obtain ⟨first, result⟩ := entry
      rw [takeAnswer_cons, answerIn_cons]
      split <;> simp [ih]

theorem takeAnswer_sublist (topic : String) (table : List (String × TopicResult)) :
    (takeAnswer topic table).2.Sublist table := by
  induction table with
  | nil => exact List.Sublist.slnil
  | cons entry rest ih =>
      obtain ⟨first, result⟩ := entry
      rw [takeAnswer_cons]
      split
      · exact List.sublist_cons_self _ rest
      · exact ih.cons_cons _

theorem takeAnswer_ascending {topic : String} {table : List (String × TopicResult)}
    (ascending : TableAscending table) : TableAscending (takeAnswer topic table).2 :=
  ascending.sublist ((takeAnswer_sublist topic table).map Prod.fst)

theorem answerIn_takeAnswer {topic : String} {table : List (String × TopicResult)}
    (ascending : TableAscending table) (other : String) :
    answerIn (takeAnswer topic table).2 other =
      if other = topic then none else answerIn table other := by
  induction table with
  | nil => simp [takeAnswer]
  | cons entry rest ih =>
      obtain ⟨first, result⟩ := entry
      have later : ∀ key ∈ rest.map Prod.fst, first < key :=
        (List.pairwise_cons.mp ascending).1
      rw [takeAnswer_cons]
      split
      · next found =>
        subst found
        by_cases same : other = first
        · subst same
          rw [if_pos rfl, answerIn_eq_none_iff]
          exact fun member => lt_irrefl other (later other member)
        · simp [same, Ne.symm same]
      · next missed =>
        rw [answerIn_cons, answerIn_cons, ih (List.pairwise_cons.mp ascending).2]
        by_cases same : other = topic
        · subst same
          simp [missed]
        · simp [same]

/-! ### Taking the outcomes out of the table -/

theorem takeOutcomes_cons (table : List (String × TopicResult)) (topic : String)
    (rest : List String) :
    takeOutcomes table (topic :: rest) =
      ((topic, outcomeOf (takeAnswer topic table).1) ::
          (takeOutcomes (takeAnswer topic table).2 rest).1,
        (takeOutcomes (takeAnswer topic table).2 rest).2) := rfl

theorem takeOutcomes_outcomes {table : List (String × TopicResult)}
    (ascending : TableAscending table) {topics : List String} (distinct : topics.Nodup) :
    (takeOutcomes table topics).1 =
      topics.map fun topic => (topic, outcomeOf (answerIn table topic)) := by
  induction topics generalizing table with
  | nil => rfl
  | cons topic rest ih =>
      rw [List.nodup_cons] at distinct
      rw [takeOutcomes_cons]
      dsimp only
      rw [List.map_cons, takeAnswer_found, ih (takeAnswer_ascending ascending) distinct.2]
      congr 1
      apply List.map_congr_left
      intro other member
      have differ : other ≠ topic := fun same => distinct.1 (same ▸ member)
      rw [answerIn_takeAnswer ascending, if_neg differ]

theorem takeOutcomes_left_ascending {table : List (String × TopicResult)}
    (ascending : TableAscending table) (topics : List String) :
    TableAscending (takeOutcomes table topics).2 := by
  induction topics generalizing table with
  | nil => exact ascending
  | cons topic rest ih => exact ih (takeAnswer_ascending ascending)

theorem answerIn_takeOutcomes_left {table : List (String × TopicResult)}
    (ascending : TableAscending table) (topics : List String) (other : String) :
    answerIn (takeOutcomes table topics).2 other =
      if other ∈ topics then none else answerIn table other := by
  induction topics generalizing table with
  | nil => simp [takeOutcomes]
  | cons topic rest ih =>
      rw [takeOutcomes_cons, ih (takeAnswer_ascending ascending), answerIn_takeAnswer ascending]
      by_cases inRest : other ∈ rest
      · simp [inRest]
      · by_cases same : other = topic <;> simp [inRest, same]

/-! ### Gathering the first answers -/

def firstResult? (responses : List TopicResponse) (topic : String) : Option TopicResult :=
  (responses.find? fun response => response.topic = topic).map TopicResponse.result

theorem firstResult?_cons (response : TopicResponse) (rest : List TopicResponse) (topic : String) :
    firstResult? (response :: rest) topic =
      if response.topic = topic then some response.result else firstResult? rest topic := by
  by_cases same : response.topic = topic <;> simp [firstResult?, same]

theorem firstResult?_eq_none_iff {responses : List TopicResponse} {topic : String} :
    firstResult? responses topic = none ↔ ∀ response ∈ responses, response.topic ≠ topic := by
  simp [firstResult?]

theorem fold_keepFirst_ascending (responses : List TopicResponse)
    {table : List (String × TopicResult)} (ascending : TableAscending table) :
    TableAscending (responses.foldl
      (fun table response => keepFirst response.topic response.result table) table) := by
  induction responses generalizing table with
  | nil => exact ascending
  | cons response rest ih => exact ih (keepFirst_ascending ascending)

theorem answerIn_fold_keepFirst (responses : List TopicResponse)
    {table : List (String × TopicResult)} (ascending : TableAscending table) (topic : String) :
    answerIn (responses.foldl
        (fun table response => keepFirst response.topic response.result table) table) topic =
      (answerIn table topic).or (firstResult? responses topic) := by
  induction responses generalizing table with
  | nil => simp [firstResult?]
  | cons response rest ih =>
      rw [List.foldl_cons, ih (keepFirst_ascending ascending), answerIn_keepFirst ascending,
        Option.or_assoc, firstResult?_cons]
      by_cases same : response.topic = topic
      · simp [same]
      · simp [same, Ne.symm same]

theorem answerTable_ascending (responses : List TopicResponse) :
    TableAscending (answerTable responses) :=
  fold_keepFirst_ascending responses tableAscending_nil

theorem answerIn_answerTable (responses : List TopicResponse) (topic : String) :
    answerIn (answerTable responses) topic = firstResult? responses topic := by
  rw [answerTable, answerIn_fold_keepFirst responses tableAscending_nil, answerIn_nil,
    Option.none_or]

/-! ### Reconciling -/

theorem reconcileRun_eq (requested : List String) (responses : List TopicResponse) :
    reconcileRun requested responses =
      ((takeOutcomes (answerTable responses) (sortedDistinct requested)).1,
        (takeOutcomes (answerTable responses) (sortedDistinct requested)).2.map Prod.fst) := rfl

theorem reconcile_eq_map (requested : List String) (responses : List TopicResponse) :
    reconcile requested responses =
      (sortedDistinct requested).map fun topic =>
        (topic, outcomeOf (firstResult? responses topic)) := by
  rw [reconcile, reconcileRun_eq]
  dsimp only
  rw [takeOutcomes_outcomes (answerTable_ascending responses) (sortedDistinct_nodup requested)]
  simp only [answerIn_answerTable]

theorem reconcile_topics (requested : List String) (responses : List TopicResponse) :
    (reconcile requested responses).map Prod.fst = sortedDistinct requested := by
  rw [reconcile_eq_map, List.map_map]
  exact List.map_id' _

theorem droppedTopics_ascending (requested : List String) (responses : List TopicResponse) :
    (droppedTopics requested responses).Pairwise (· < ·) :=
  takeOutcomes_left_ascending (answerTable_ascending responses) (sortedDistinct requested)

theorem mem_droppedTopics {requested : List String} {responses : List TopicResponse}
    {topic : String} :
    topic ∈ droppedTopics requested responses ↔
      topic ∉ requested ∧ ∃ response ∈ responses, response.topic = topic := by
  rw [droppedTopics, reconcileRun_eq]
  dsimp only
  have held : ∀ table : List (String × TopicResult),
      topic ∈ table.map Prod.fst ↔ answerIn table topic ≠ none := by
    intro table
    rw [ne_eq, answerIn_eq_none_iff, not_not]
  rw [held, answerIn_takeOutcomes_left (answerTable_ascending responses), answerIn_answerTable]
  by_cases asked : topic ∈ requested
  · simp [asked]
  · simp [asked, firstResult?_eq_none_iff]

/-- The outcome the first answer for a topic calls for: no answer is a missing-response
failure, success deletes the topic, the codes of an unknown topic (3, and -188 from the client
library) find it already absent, and any other code is a failure with that code. -/
def expectedOutcome (responses : List TopicResponse) (topic : String) : TopicOutcome :=
  match firstResult? responses topic with
  | none => .failed .missingResponse
  | some .ok => .deleted
  | some (.error code) =>
    if code.code = 3 ∨ code.code = -188 then .alreadyAbsent else .failed (.broker code)

theorem meansAbsent_iff {code : ResponseCode} :
    code.meansAbsent = true ↔ code.code = 3 ∨ code.code = -188 := by
  -- unfolded before `simp`: rewriting the named codes would leave the `Decidable` instances
  -- behind, and `decide_eq_true_eq` would no longer match them
  unfold ResponseCode.meansAbsent ResponseCode.unknownTopicOrPartition ResponseCode.unknownTopic
  simp

theorem classify_error (code : ResponseCode) :
    classify (.error code) =
      if code.code = 3 ∨ code.code = -188 then .alreadyAbsent else .failed (.broker code) := by
  by_cases absent : code.meansAbsent = true
  · simp [classify, absent, meansAbsent_iff.mp absent]
  · have codes : ¬(code.code = 3 ∨ code.code = -188) := fun both =>
      absent (meansAbsent_iff.mpr both)
    simp only [classify, absent, codes, Bool.false_eq_true, if_false]

theorem outcomeOf_firstResult (responses : List TopicResponse) (topic : String) :
    outcomeOf (firstResult? responses topic) = expectedOutcome responses topic := by
  unfold expectedOutcome
  rcases firstResult? responses topic with _ | _ | code
  · rfl
  · rfl
  · exact classify_error code

/-- Matching answers with the requested topics. There is one pair per distinct requested topic,
in strictly ascending order, each with the outcome its first answer calls for; the answered
topics that were not requested get one warning each, in ascending order; and the outcomes depend
only on which topics are requested and on their first answers, so neither the order and
repetitions of the request nor the answers for other topics change them. -/
theorem reconcile_outcomes_of_first_answers (requested : List String)
    (responses : List TopicResponse) :
    (((reconcile requested responses).map Prod.fst).Pairwise (· < ·) ∧
      (∀ topic, topic ∈ (reconcile requested responses).map Prod.fst ↔ topic ∈ requested) ∧
      ∀ pair ∈ reconcile requested responses, pair.2 = expectedOutcome responses pair.1) ∧
    (∃ dropped : List String,
      (droppedTopics requested responses).map droppedMessage =
        dropped.map ("Dropping response for topic which was not requested: " ++ ·) ∧
      dropped.Pairwise (· < ·) ∧
      ∀ topic, topic ∈ dropped ↔
        topic ∉ requested ∧ ∃ response ∈ responses, response.topic = topic) ∧
    (∀ others : List String, (∀ topic, topic ∈ others ↔ topic ∈ requested) →
      reconcile others responses = reconcile requested responses) ∧
    (∀ answers : List TopicResponse,
      (∀ topic ∈ requested, firstResult? answers topic = firstResult? responses topic) →
        reconcile requested answers = reconcile requested responses) := by
  refine ⟨⟨?ascending, ?members, ?outcomes⟩, ?dropped, ?reordered, ?reanswered⟩
  case ascending =>
    rw [reconcile_topics]
    exact sortedDistinct_ascending requested
  case members =>
    intro topic
    rw [reconcile_topics, mem_sortedDistinct]
  case outcomes =>
    intro pair member
    rw [reconcile_eq_map, List.mem_map] at member
    obtain ⟨topic, -, rfl⟩ := member
    exact outcomeOf_firstResult responses topic
  case dropped =>
    refine ⟨droppedTopics requested responses, rfl, droppedTopics_ascending requested responses,
      fun topic => mem_droppedTopics⟩
  case reordered =>
    intro others same
    rw [reconcile_eq_map, reconcile_eq_map, sortedDistinct_eq_of_mem_iff same]
  case reanswered =>
    intro answers agree
    rw [reconcile_eq_map, reconcile_eq_map]
    apply List.map_congr_left
    intro topic member
    rw [agree topic (mem_sortedDistinct.mp member)]

example :
    reconcile ["c", "a", "b", "a"]
        [⟨"b", .ok⟩, ⟨"c", .error ⟨3, "UnknownTopicOrPartition", ""⟩⟩, ⟨"z", .ok⟩,
          ⟨"b", .error ⟨44, "PolicyViolation", ""⟩⟩] =
      [("a", .failed .missingResponse), ("b", .deleted), ("c", .alreadyAbsent)] := by
  decide +kernel

end TopicLifecycle.Broker
