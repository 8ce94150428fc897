import TopicLifecycle.Proofs.Delete
import TopicLifecycle.Admin.Scripted

/-!
Deleting topics over and over from a broker that holds a set of them: every topic is reported
deleted once if it existed, and absent by every other call.
-/

namespace TopicLifecycle.Admin

open Broker Manager

def setBroker (held : List String) : ScriptedBroker := { existing := some held }

@[simp] theorem setBroker_existing (held : List String) : (setBroker held).existing = some held :=
  rfl

@[simp] theorem setBroker_prepended (held : List String) : (setBroker held).prepended = [] := rfl

@[simp] theorem setBroker_appended (held : List String) : (setBroker held).appended = [] := rfl

@[simp] theorem setBroker_reversed (held : List String) : (setBroker held).reversed = false := rfl

def setAnswers (held names : List String) : List TopicResponse :=
  names.map fun name => ⟨name, if name ∈ held then .ok else .error unknownTopicCode⟩

theorem runCall_eq (options : DeleteOptions) (broker : ScriptedBroker) (call : Call) :
    runCall options broker call =
      (deleteTopics options (fun names _ => (broker.reply call names).1) call.topics,
        if (sortedDistinct call.topics).isEmpty then broker
        else (broker.reply call (sortedDistinct call.topics)).2) := rfl

theorem answerNames_cons_held {origin held : List String} {name : String} (rest : List String)
    (member : name ∈ held) :
    answerNames (setBroker origin) (some held) (name :: rest) =
      (⟨name, .ok⟩ :: (answerNames (setBroker origin) (some (held.erase name)) rest).1,
        (answerNames (setBroker origin) (some (held.erase name)) rest).2) := by
  simp [answerNames, setBroker, member]

theorem answerNames_cons_absent {origin held : List String} {name : String} (rest : List String)
    (absent : name ∉ held) :
    answerNames (setBroker origin) (some held) (name :: rest) =
      (⟨name, .error unknownTopicCode⟩ :: (answerNames (setBroker origin) (some held) rest).1,
        (answerNames (setBroker origin) (some held) rest).2) := by
  simp [answerNames, setBroker, absent]

theorem answerNames_setBroker {origin held : List String} (distinct : held.Nodup)
    {names : List String} (asked : names.Nodup) :
    answerNames (setBroker origin) (some held) names =
      (setAnswers held names, some (held.filter fun topic => topic ∉ names)) := by
  unfold setAnswers
  induction names generalizing held with
  | nil => simp [answerNames]
  | cons name rest ih =>
      rw [List.nodup_cons] at asked
      by_cases member : name ∈ held
      · rw [answerNames_cons_held rest member, ih (distinct.erase name) asked.2,
          distinct.erase_eq_filter, List.filter_filter]
        have kept : ∀ other ∈ rest, (other ∈ held.filter (· != name)) = (other ∈ held) := by
          intro other later
          have differ : other ≠ name := fun same => asked.1 (same ▸ later)
          simp [differ]
        simp only [List.map_cons, if_pos member, Prod.mk.injEq, List.cons.injEq, true_and]
        constructor
        · apply List.map_congr_left
          intro other later
          simp only [kept other later]
        · congr 2
          funext topic
          by_cases same : topic = name <;> simp [same]
      · rw [answerNames_cons_absent rest member, ih distinct asked.2]
        simp only [List.map_cons, if_neg member, Prod.mk.injEq, true_and]
        congr 1
        apply List.filter_congr
        intro topic inHeld
        have differ : topic ≠ name := fun same => member (same ▸ inHeld)
        simp [differ]

theorem reply_setBroker {held : List String} (distinct : held.Nodup) (topics : List String)
    {names : List String} (asked : names.Nodup) :
    (setBroker held).reply { topics } names =
      (.answered (setAnswers held names), setBroker (held.filter fun topic => topic ∉ names)) := by
  simp only [ScriptedBroker.reply, Bool.false_eq_true, if_false, setBroker_existing,
    answerNames_setBroker distinct asked, setBroker_reversed, setBroker_prepended,
    setBroker_appended, List.nil_append, List.append_nil]
  rfl

theorem unknownTopicCode_code : unknownTopicCode.code = 3 := rfl

theorem unknownTopicCode_absent : classify (.error unknownTopicCode) = .alreadyAbsent := by
  rw [classify_error, if_pos (Or.inl unknownTopicCode_code)]

theorem firstResult?_own {names : List String} {answer : String → TopicResult} {topic : String}
    (member : topic ∈ names) :
    firstResult? (names.map fun name => ⟨name, answer name⟩) topic = some (answer topic) := by
  induction names with
  | nil => simp at member
  | cons name rest ih =>
      rw [List.map_cons, firstResult?_cons]
      by_cases same : name = topic
      · subst same
        simp
      · have later : topic ∈ rest := (List.mem_cons.mp member).resolve_left (Ne.symm same)
        simp only [same, if_false]
        exact ih later

theorem reconcile_setAnswers (held : List String) {names : List String}
    (ascending : names.Pairwise (· < ·)) :
    reconcile names (setAnswers held names) =
      names.map fun topic => (topic, if topic ∈ held then .deleted else .alreadyAbsent) := by
  rw [reconcile_eq_map, sortedDistinct_of_ascending ascending]
  apply List.map_congr_left
  intro topic member
  rw [setAnswers, firstResult?_own member]
  by_cases inHeld : topic ∈ held
  · simp [outcomeOf, classify, inHeld]
  · simp [outcomeOf, unknownTopicCode_absent, inHeld]

theorem failedTopics_setAnswers (held : List String) {names : List String}
    (ascending : names.Pairwise (· < ·)) :
    failedTopics (reconcile names (setAnswers held names)) = [] := by
  rw [failedTopics_eq_nil_iff, reconcile_setAnswers held ascending]
  intro pair member failure isFailed
  obtain ⟨topic, -, rfl⟩ := List.mem_map.mp member
  by_cases inHeld : topic ∈ held <;> simp [inHeld] at isFailed

theorem runCall_setBroker (options : DeleteOptions) {held : List String} (distinct : held.Nodup)
    (topics : List String) :
    ∃ report, runCall options (setBroker held) { topics } =
        (some report, setBroker (held.filter fun topic => topic ∉ topics)) ∧
      report.result = .ok () ∧
      topicEvents report.events = (sortedDistinct topics).map fun topic =>
        outcomeEvent topic (if topic ∈ held then .deleted else .alreadyAbsent) := by
  by_cases empty : topics = []
  · subst empty
    have kept : (held.filter fun topic => topic ∉ ([] : List String)) = held := by simp
    rw [kept]
    exact ⟨_, rfl, rfl, rfl⟩
  · have asked := sortedDistinct_nodup topics
    have ascending := sortedDistinct_ascending topics
    refine ⟨answeredReport topics.length (sortedDistinct topics)
      (setAnswers held (sortedDistinct topics)), ?_, ?_, ?_⟩
    · have answered : ((setBroker held).reply { topics } (sortedDistinct topics)).1 =
          .answered (setAnswers held (sortedDistinct topics)) := by
        rw [reply_setBroker distinct topics asked]
      have kept : (held.filter fun topic => topic ∉ sortedDistinct topics) =
          held.filter fun topic => topic ∉ topics := by
        simp only [mem_sortedDistinct]
      rw [runCall_eq, deleteTopics_answered empty answered, sortedDistinct_isEmpty empty,
        reply_setBroker distinct topics asked, kept]
      rfl
    · rw [answeredReport_result, failedTopics_setAnswers held ascending, join_nil]
    · rw [topicEvents_answeredReport, reconcile_setAnswers held ascending, List.map_map]
      rfl

/-! ### The events for one topic -/

def eventsFor (topic : String) (report : DeleteReport) : List Event :=
  report.events.filter fun event => event.topic = some topic

theorem eventsFor_of_topicEvents {topic : String} {report : DeleteReport} {names : List String}
    (distinct : names.Nodup) {outcome : String → TopicOutcome}
    (events : topicEvents report.events = names.map fun name => outcomeEvent name (outcome name)) :
    eventsFor topic report = if topic ∈ names then [outcomeEvent topic (outcome topic)] else [] := by
  have narrowed : eventsFor topic report =
      (topicEvents report.events).filter fun event => event.topic = some topic := by
    unfold eventsFor topicEvents
    rw [List.filter_filter]
    apply List.filter_congr
    intro event _
    cases event.topic <;> simp
  rw [narrowed, events, List.filter_map]
  have ownTopic : ((fun event : Event => decide (event.topic = some topic)) ∘
      fun name => outcomeEvent name (outcome name)) = fun name => decide (name = topic) := by
    funext name
    simp [outcomeEvent_topic]
  rw [ownTopic, List.filter_eq, distinct.count]
  split <;> rfl

/-- The events for a topic that calls on the set broker emit, call by call, when `present` says
whether the broker still holds it: the first call to ask deletes it if it is held, and every
other call that asks finds it absent. -/
def expectedEventsFor (topic : String) : Bool → List (List String) → List (List Event)
  | _, [] => []
  | present, slice :: rest =>
    if topic ∈ slice then
      [outcomeEvent topic (if present then .deleted else .alreadyAbsent)] ::
        expectedEventsFor topic false rest
    else [] :: expectedEventsFor topic present rest

theorem deleted_ne_absent (topic : String) :
    outcomeEvent topic .deleted ≠ outcomeEvent topic .alreadyAbsent := by
  simp [outcomeEvent]

theorem count_deleted_expectedEventsFor (topic : String) (present : Bool)
    (slices : List (List String)) :
    (expectedEventsFor topic present slices).flatten.count (outcomeEvent topic .deleted) =
      if present = true ∧ ∃ slice ∈ slices, topic ∈ slice then 1 else 0 := by
  induction slices generalizing present with
  | nil => simp [expectedEventsFor]
  | cons slice rest ih =>
      by_cases asked : topic ∈ slice
      · have later := ih false
        cases present
        · simp [expectedEventsFor, asked, later, Ne.symm (deleted_ne_absent topic)]
        · simp [expectedEventsFor, asked, later]
      · simp [expectedEventsFor, asked, ih present]

theorem count_absent_expectedEventsFor (topic : String) (present : Bool)
    (slices : List (List String)) :
    (expectedEventsFor topic present slices).flatten.count (outcomeEvent topic .alreadyAbsent) +
        (if present = true ∧ ∃ slice ∈ slices, topic ∈ slice then 1 else 0) =
      slices.countP fun slice => topic ∈ slice := by
  induction slices generalizing present with
  | nil => simp [expectedEventsFor]
  | cons slice rest ih =>
      by_cases asked : topic ∈ slice
      · have later := ih false
        simp only [Bool.false_eq_true, false_and, if_false, Nat.add_zero] at later
        cases present
        · simp [expectedEventsFor, asked, later]
        · simp [expectedEventsFor, asked, later, deleted_ne_absent]
      · have later := ih present
        simp only [expectedEventsFor, asked, if_false, List.flatten_cons, List.nil_append,
          List.countP_cons, List.mem_cons, exists_eq_or_imp, false_or, decide_false,
          Bool.false_eq_true, Nat.add_zero]
        exact later

theorem expectedEventsFor_entries (topic : String) (present : Bool) (slices : List (List String)) :
    ∀ pair ∈ slices.zip (expectedEventsFor topic present slices),
      pair.2.length = (if topic ∈ pair.1 then 1 else 0) ∧
      ∀ event ∈ pair.2, event = outcomeEvent topic .deleted ∨
        event = outcomeEvent topic .alreadyAbsent := by
  induction slices generalizing present with
  | nil => simp [expectedEventsFor]
  | cons slice rest ih =>
      intro pair member
      by_cases asked : topic ∈ slice
      · rw [expectedEventsFor, if_pos asked, List.zip_cons_cons, List.mem_cons] at member
        rcases member with rfl | later
        · refine ⟨by simp [asked], ?_⟩
          intro event isEvent
          cases present <;> simp_all
        · exact ih false pair later
      · rw [expectedEventsFor, if_neg asked, List.zip_cons_cons, List.mem_cons] at member
        rcases member with rfl | later
        · simp [asked]
        · exact ih present pair later

theorem count_eventsFor (topic : String) (outcome : TopicOutcome) (report : DeleteReport) :
    (eventsFor topic report).count (outcomeEvent topic outcome) =
      report.events.count (outcomeEvent topic outcome) :=
  List.count_filter (by simp [outcomeEvent_topic])

theorem count_outcomeEvent_flatMap (topic : String) (outcome : TopicOutcome)
    (reports : List DeleteReport) :
    (reports.flatMap (·.events)).count (outcomeEvent topic outcome) =
      (reports.map (eventsFor topic)).flatten.count (outcomeEvent topic outcome) := by
  induction reports with
  | nil => rfl
  | cons report rest ih =>
      rw [List.flatMap_cons, List.map_cons, List.flatten_cons, List.count_append,
        List.count_append, ih, count_eventsFor]

/-! ### Calls one after another -/

theorem serveCalls_cons (options : DeleteOptions) (broker : ScriptedBroker) (call : Call)
    (calls : List Call) :
    serveCalls options broker (call :: calls) =
      ((runCall options broker call).1 ::
          (serveCalls options (runCall options broker call).2 calls).1,
        (serveCalls options (runCall options broker call).2 calls).2) := rfl

theorem serveCalls_setBroker (options : DeleteOptions) {held : List String}
    (distinct : held.Nodup) (slices : List (List String)) :
    ∃ reports : List DeleteReport,
      serveCalls options (setBroker held) (slices.map fun topics => { topics }) =
        (reports.map some, setBroker (held.filter fun topic => ∀ slice ∈ slices, topic ∉ slice)) ∧
      (∀ report ∈ reports, report.result = .ok ()) ∧
      ∀ topic, reports.map (eventsFor topic) =
        expectedEventsFor topic (decide (topic ∈ held)) slices := by
  induction slices generalizing held with
  | nil =>
      have kept : (held.filter fun topic =>
          ∀ slice ∈ ([] : List (List String)), topic ∉ slice) = held := by
        simp
      rw [kept]
      exact ⟨[], rfl, by simp, fun topic => rfl⟩
  | cons slice rest ih =>
      obtain ⟨report, ran, succeeded, events⟩ := runCall_setBroker options distinct slice
      -- the first call leaves the broker holding its topics outside the slice, still distinct,
      -- so the rest of the calls run from a broker of the same shape
      obtain ⟨reports, served, allSucceeded, restEvents⟩ :=
        ih (distinct.filter fun topic => decide (topic ∉ slice))
      refine ⟨report :: reports, ?_, ?_, ?_⟩
      · rw [List.map_cons, serveCalls_cons, ran]
        dsimp only
        rw [served, List.filter_filter]
        have together : (held.filter fun topic =>
            decide (∀ later ∈ rest, topic ∉ later) && decide (topic ∉ slice)) =
            held.filter fun topic => ∀ other ∈ slice :: rest, topic ∉ other := by
          apply List.filter_congr
          intro topic _
          simp [Bool.and_comm]
        rw [together]
        rfl
      · intro other member
        rcases List.mem_cons.mp member with rfl | later
        · exact succeeded
        · exact allSucceeded other later
      · intro topic
        rw [List.map_cons, restEvents topic,
          eventsFor_of_topicEvents (sortedDistinct_nodup slice) events]
        by_cases asked : topic ∈ slice
        · simp [expectedEventsFor, asked]
        · simp [expectedEventsFor, asked]

/-- Deleting topics over and over from a broker that holds a set of them, with any slices and
whatever the order in which the calls' requests reach it: every call succeeds; the broker keeps
exactly the topics no call asked for; in any interleaving of the calls' events, a topic it held
and some call asked for is reported deleted exactly once, and a topic it did not hold never; and
every call that asked for a topic emits exactly one event for it, deleted or absent, so all the
calls but the one that deleted it report it absent. -/
theorem serveCalls_deletes_each_topic_once (options : DeleteOptions) (initial : List String)
    (slices : List (List String)) :
    let served := serveCalls options (setBroker (sortedDistinct initial))
      (slices.map fun topics => { topics })
    ∃ reports : List DeleteReport, served.1 = reports.map some ∧
      (∀ report ∈ reports, report.result = .ok ()) ∧
      (∃ remaining, served.2 = setBroker remaining ∧
        ∀ topic, topic ∈ remaining ↔ topic ∈ initial ∧ ∀ slice ∈ slices, topic ∉ slice) ∧
      ∀ topic,
        (∀ log : List Event, log.Perm (reports.flatMap (·.events)) →
          log.count (outcomeEvent topic .deleted) =
            (if topic ∈ initial ∧ ∃ slice ∈ slices, topic ∈ slice then 1 else 0) ∧
          log.count (outcomeEvent topic .alreadyAbsent) +
              (if topic ∈ initial ∧ ∃ slice ∈ slices, topic ∈ slice then 1 else 0) =
            slices.countP (fun slice => topic ∈ slice)) ∧
        ∀ pair ∈ slices.zip reports,
          (eventsFor topic pair.2).length = (if topic ∈ pair.1 then 1 else 0) ∧
          ∀ event ∈ eventsFor topic pair.2,
            event = outcomeEvent topic .deleted ∨ event = outcomeEvent topic .alreadyAbsent := by
  intro served
  obtain ⟨reports, ran, succeeded, events⟩ :=
    serveCalls_setBroker options (sortedDistinct_nodup initial) slices
  refine ⟨reports, by rw [show served = _ from ran], succeeded, ?_, ?_⟩
  · refine ⟨_, by rw [show served = _ from ran], ?_⟩
    intro topic
    simp
  · intro topic
    have held : decide (topic ∈ sortedDistinct initial) = true ↔ topic ∈ initial := by simp
    refine ⟨?_, ?_⟩
    · intro log interleaved
      -- counting is blind to order, so any interleaving counts as the calls taken one by one
      rw [interleaved.count_eq, interleaved.count_eq]
      constructor
      · rw [count_outcomeEvent_flatMap, events topic, count_deleted_expectedEventsFor]
        simp only [held]
      · have absent := count_absent_expectedEventsFor topic
          (decide (topic ∈ sortedDistinct initial)) slices
        simp only [held] at absent
        rw [count_outcomeEvent_flatMap, events topic]
        exact absent
    · intro pair member
      have entry : (pair.1, eventsFor topic pair.2) ∈
          slices.zip (expectedEventsFor topic (decide (topic ∈ sortedDistinct initial)) slices) := by
        rw [← events topic, List.zip_map_right]
        exact List.mem_map.mpr ⟨pair, member, rfl⟩
      exact expectedEventsFor_entries topic _ slices _ entry

end TopicLifecycle.Admin
