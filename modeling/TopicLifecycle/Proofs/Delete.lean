import TopicLifecycle.Proofs.Reconcile
import TopicLifecycle.Manager.Delete

/-!
What one delete request returns and shows.
-/

namespace TopicLifecycle.Manager

open Broker

/-! ### The failed topics -/

theorem mem_failedTopics {outcomes : List (String × TopicOutcome)} {failed : TopicDeleteError} :
    failed ∈ failedTopics outcomes ↔ (failed.topic, .failed failed.failure) ∈ outcomes := by
  obtain ⟨name, failure⟩ := failed
  induction outcomes with
  | nil => simp [failedTopics]
  | cons pair rest ih =>
      obtain ⟨topic, outcome⟩ := pair
      simp only [failedTopics, List.filterMap_cons] at ih ⊢
      cases outcome with
      | deleted => simp [ih]
      | alreadyAbsent => simp [ih]
      | failed reason => simp [ih]

theorem failedTopics_eq_nil_iff {outcomes : List (String × TopicOutcome)} :
    failedTopics outcomes = [] ↔ ∀ pair ∈ outcomes, ∀ failure, pair.2 ≠ .failed failure := by
  rw [List.eq_nil_iff_forall_not_mem]
  constructor
  · intro none pair member failure isFailed
    apply none ⟨pair.1, failure⟩
    rw [mem_failedTopics, ← isFailed]
    exact member
  · intro none failed member
    exact none _ (mem_failedTopics.mp member) failed.failure rfl

theorem failedTopics_topics_sublist (outcomes : List (String × TopicOutcome)) :
    ((failedTopics outcomes).map TopicDeleteError.topic).Sublist (outcomes.map Prod.fst) := by
  induction outcomes with
  | nil => exact List.Sublist.slnil
  | cons pair rest ih =>
      obtain ⟨topic, outcome⟩ := pair
      simp only [failedTopics, List.filterMap_cons] at ih ⊢
      cases outcome with
      | deleted => exact ih.cons topic
      | alreadyAbsent => exact ih.cons topic
      | failed reason => exact ih.cons_cons topic

theorem join_nil : TopicErrors.join [] = none := rfl

theorem join_of_ne_nil {errors : List TopicDeleteError} (nonempty : errors ≠ []) :
    TopicErrors.join errors = some ⟨errors, nonempty⟩ := by
  simp [TopicErrors.join, nonempty]

def FailsAsTransport (result : Except DeleteError Unit) (error : TransportError) : Prop :=
  result = .error (.transport error) ∧ (DeleteError.transport error).topicErrors = [] ∧
    ∃ cause, (DeleteError.transport error).text = "failed to delete kafka topics: " ++ cause

def VerdictOf (outcomes : List (String × TopicOutcome)) (result : Except DeleteError Unit) :
    Prop :=
  (result = .ok () ↔ ∀ pair ∈ outcomes, ∀ failure, pair.2 ≠ .failed failure) ∧
  ∀ error, result = .error error → ∃ errors : TopicErrors, error = .topics errors ∧
    errors.errors ≠ [] ∧ error.topicErrors = errors.errors ∧ errors.topics.Pairwise (· < ·) ∧
    (∀ failed, failed ∈ errors.errors ↔ (failed.topic, .failed failed.failure) ∈ outcomes) ∧
    error.text = "\n".intercalate (errors.errors.map fun failed =>
      "failed to delete topic \"" ++ failed.topic ++ "\": " ++ failed.failure.text)

theorem failsAsTransport (error : TransportError) :
    FailsAsTransport (.error (.transport error)) error :=
  ⟨rfl, rfl, error.text, rfl⟩

theorem verdictOf_join {outcomes : List (String × TopicOutcome)}
    (ascending : (outcomes.map Prod.fst).Pairwise (· < ·)) :
    VerdictOf outcomes (match TopicErrors.join (failedTopics outcomes) with
      | some errors => .error (.topics errors)
      | none => .ok ()) := by
  by_cases noFailure : failedTopics outcomes = []
  · rw [noFailure, join_nil]
    refine ⟨⟨fun _ => failedTopics_eq_nil_iff.mp noFailure, fun _ => rfl⟩, ?_⟩
    intro error isError
    cases isError
  · rw [join_of_ne_nil noFailure]
    have notOk : (∀ pair ∈ outcomes, ∀ failure, pair.2 ≠ .failed failure) → False :=
      fun allPass => noFailure (failedTopics_eq_nil_iff.mpr allPass)
    refine ⟨⟨fun isOk => (by cases isOk), fun allPass => (notOk allPass).elim⟩, ?_⟩
    intro error isError
    cases isError
    refine ⟨_, rfl, noFailure, rfl, ?_, fun failed => mem_failedTopics, rfl⟩
    exact ascending.sublist (failedTopics_topics_sublist outcomes)

/-! ### The exits of a delete request -/

theorem deleteTopics_nil (options : DeleteOptions)
    (admin : List String → DeleteOptions → AdminReply) :
    deleteTopics options admin [] =
      some { request := none, result := .ok (),
             events := [{ level := .debug, message := "No topics to delete" }],
             spanFields := deleteSpanFields 0, logs := [] } := rfl

theorem sortedDistinct_isEmpty {topics : List String} (nonempty : topics ≠ []) :
    (sortedDistinct topics).isEmpty = false := by
  rw [List.isEmpty_eq_false_iff, ne_eq, sortedDistinct_eq_nil_iff]
  exact nonempty

section Asked

variable {options : DeleteOptions} {admin : List String → DeleteOptions → AdminReply}
  {topics : List String}

theorem deleteTopics_answered {responses : List TopicResponse} (nonempty : topics ≠ [])
    (answered : admin (sortedDistinct topics) options = .answered responses) :
    deleteTopics options admin topics =
      some (answeredReport topics.length (sortedDistinct topics) responses) := by
  simp only [deleteTopics, sortedDistinct_isEmpty nonempty, answered, Bool.false_eq_true, if_false]

theorem deleteTopics_failed {error : ClientError} (nonempty : topics ≠ [])
    (failed : admin (sortedDistinct topics) options = .failed error) :
    deleteTopics options admin topics =
      some (transportReport topics.length (sortedDistinct topics) (.client error)) := by
  simp only [deleteTopics, sortedDistinct_isEmpty nonempty, failed, Bool.false_eq_true, if_false]

theorem deleteTopics_silent (nonempty : topics ≠ [])
    (silent : admin (sortedDistinct topics) options = .silent) :
    deleteTopics options admin topics =
      options.requestTimeout.map fun timeout =>
        transportReport topics.length (sortedDistinct topics) (.timeout timeout) := by
  simp only [deleteTopics, sortedDistinct_isEmpty nonempty, silent, Bool.false_eq_true, if_false]

theorem deleteTopics_congr_reply {other : List String → DeleteOptions → AdminReply}
    (nonempty : topics ≠ [])
    (same : other (sortedDistinct topics) options = admin (sortedDistinct topics) options) :
    deleteTopics options other topics = deleteTopics options admin topics := by
  cases reply : admin (sortedDistinct topics) options with
  | answered responses =>
    rw [deleteTopics_answered nonempty reply, deleteTopics_answered nonempty (same.trans reply)]
  | failed error =>
    rw [deleteTopics_failed nonempty reply, deleteTopics_failed nonempty (same.trans reply)]
  | silent =>
    rw [deleteTopics_silent nonempty reply, deleteTopics_silent nonempty (same.trans reply)]

end Asked

theorem answeredReport_result (batchSize : Nat) (names : List String)
    (responses : List TopicResponse) :
    (answeredReport batchSize names responses).result =
      match TopicErrors.join (failedTopics (reconcile names responses)) with
      | some errors => .error (.topics errors)
      | none => .ok () := rfl

theorem answeredReport_verdict (batchSize : Nat) {names : List String}
    (responses : List TopicResponse) :
    VerdictOf (reconcile names responses) (answeredReport batchSize names responses).result := by
  rw [answeredReport_result]
  apply verdictOf_join
  rw [reconcile_topics]
  exact sortedDistinct_ascending names

/-- Deleting a batch of topics. An empty batch succeeds without asking the admin. Otherwise the
admin is asked once, with the distinct names in ascending order and the manager's options, and
its reply alone decides the report: a failed request, or one that times out, is a transport
error naming no topic; an answered one succeeds exactly when no topic failed, and else fails
with exactly the failed topics, in ascending order, one message line each. -/
theorem deleteTopics_contract (options : DeleteOptions)
    (admin : List String → DeleteOptions → AdminReply) (topics : List String) :
    (topics = [] → ∃ report, (∀ other, deleteTopics options other topics = some report) ∧
      report.request = none ∧ report.result = .ok ()) ∧
    (topics ≠ [] →
      let names := sortedDistinct topics
      names.Pairwise (· < ·) ∧ (∀ topic, topic ∈ names ↔ topic ∈ topics) ∧
      (∀ other : List String → DeleteOptions → AdminReply, other names options = admin names options →
        deleteTopics options other topics = deleteTopics options admin topics) ∧
      (∀ error, admin names options = .failed error → ∃ report,
        deleteTopics options admin topics = some report ∧ report.request = some names ∧
          FailsAsTransport report.result (.client error)) ∧
      (∀ timeout, admin names options = .silent → options.requestTimeout = some timeout →
        ∃ report, deleteTopics options admin topics = some report ∧ report.request = some names ∧
          FailsAsTransport report.result (.timeout timeout)) ∧
      (∀ responses, admin names options = .answered responses → ∃ report,
        deleteTopics options admin topics = some report ∧ report.request = some names ∧
          VerdictOf (reconcile names responses) report.result)) := by
  constructor
  · intro empty
    subst empty
    exact ⟨_, fun other => deleteTopics_nil options other, rfl, rfl⟩
  · intro nonempty names
    refine ⟨sortedDistinct_ascending topics, fun topic => mem_sortedDistinct, ?_, ?_, ?_, ?_⟩
    · intro other same
      exact deleteTopics_congr_reply nonempty same
    · intro error failed
      exact ⟨_, deleteTopics_failed nonempty failed, rfl, failsAsTransport _⟩
    · intro timeout silent limited
      rw [deleteTopics_silent nonempty silent, limited]
      exact ⟨_, rfl, rfl, failsAsTransport _⟩
    · intro responses answered
      exact ⟨_, deleteTopics_answered nonempty answered, rfl,
        answeredReport_verdict _ responses⟩

/-! ### Events and span -/

def topicEvents (events : List Event) : List Event :=
  events.filter fun event => event.topic.isSome

theorem outcomeEvent_topic (topic : String) (outcome : TopicOutcome) :
    (outcomeEvent topic outcome).topic = some topic := by
  cases outcome <;> rfl

theorem topicEvents_answeredReport (batchSize : Nat) (names : List String)
    (responses : List TopicResponse) :
    topicEvents (answeredReport batchSize names responses).events =
      (reconcile names responses).map fun (topic, outcome) => outcomeEvent topic outcome := by
  apply List.filter_eq_self.mpr
  intro event member
  obtain ⟨⟨topic, outcome⟩, -, rfl⟩ := List.mem_map.mp member
  simp [outcomeEvent_topic]

theorem topicEvents_transportReport (batchSize : Nat) (names : List String)
    (error : TransportError) :
    topicEvents (transportReport batchSize names error).events = [] := rfl

theorem lookup_deleteSpanFields (batchSize : Nat) (extra : List (String × String)) :
    (deleteSpanFields batchSize ++ extra).lookup "messaging.system" = some "kafka" ∧
    (deleteSpanFields batchSize ++ extra).lookup "messaging.batch.size" =
      some (toString batchSize) ∧
    (deleteSpanFields batchSize ++ extra).lookup "otel.status_code" =
      extra.lookup "otel.status_code" ∧
    (deleteSpanFields batchSize ++ extra).lookup "otel.status_message" =
      extra.lookup "otel.status_message" := by
  simp [deleteSpanFields, List.lookup_cons]

theorem lookup_failedSpanFields (message : String) :
    (failedSpanFields message).lookup "otel.status_code" = some "ERROR" ∧
    (failedSpanFields message).lookup "otel.status_message" = some message := by
  simp [failedSpanFields, List.lookup_cons]

structure SpanMarked (batchSize : Nat) (report : DeleteReport) : Prop where
  system : report.spanFields.lookup "messaging.system" = some "kafka"
  batchSize : report.spanFields.lookup "messaging.batch.size" = some (toString batchSize)
  errorStatus : report.spanFields.lookup "otel.status_code" = some "ERROR" ↔
    ∃ error, report.result = .error error
  noStatus : report.result = .ok () →
    report.spanFields.lookup "otel.status_code" = none ∧
      report.spanFields.lookup "otel.status_message" = none
  transportMessage : ∀ error, report.result = .error (.transport error) →
    report.spanFields.lookup "otel.status_message" = some "DeleteTopics returned an error"
  topicsMessage : ∀ errors, report.result = .error (.topics errors) →
    report.spanFields.lookup "otel.status_message" = some "failed to delete one or more topic"

theorem spanMarked_ok {batchSize : Nat} {report : DeleteReport} (isOk : report.result = .ok ())
    (fields : report.spanFields = deleteSpanFields batchSize ++ []) :
    SpanMarked batchSize report := by
  have spanned := lookup_deleteSpanFields batchSize []
  rw [← fields] at spanned
  refine ⟨spanned.1, spanned.2.1, ?_, fun _ => ⟨spanned.2.2.1, spanned.2.2.2⟩, ?_, ?_⟩
  · rw [spanned.2.2.1, isOk]
    simp
  · intro error isError
    rw [isOk] at isError
    cases isError
  · intro errors isError
    rw [isOk] at isError
    cases isError

theorem spanMarked_failed {batchSize : Nat} {report : DeleteReport} {message : String}
    (fields : report.spanFields = deleteSpanFields batchSize ++ failedSpanFields message)
    (failed : ∃ error, report.result = .error error)
    (transport : ∀ error, report.result = .error (.transport error) →
      message = "DeleteTopics returned an error")
    (topics : ∀ errors, report.result = .error (.topics errors) →
      message = "failed to delete one or more topic") :
    SpanMarked batchSize report := by
  have spanned := lookup_deleteSpanFields batchSize (failedSpanFields message)
  have marked := lookup_failedSpanFields message
  rw [← fields] at spanned
  have statusCode := spanned.2.2.1.trans marked.1
  have statusMessage := spanned.2.2.2.trans marked.2
  refine ⟨spanned.1, spanned.2.1, iff_of_true statusCode failed, ?_, ?_, ?_⟩
  · intro isOk
    obtain ⟨error, isError⟩ := failed
    rw [isOk] at isError
    cases isError
  · intro error isError
    rw [statusMessage, transport error isError]
  · intro errors isError
    rw [statusMessage, topics errors isError]

/-- What one delete request shows observers: its span, and, when the admin answered, one event
per distinct requested topic in ascending order at the level its outcome calls for, with no
topic event on any other path. -/
structure ShowsReport (options : DeleteOptions) (admin : List String → DeleteOptions → AdminReply)
    (topics : List String) (report : DeleteReport) : Prop where
  span : SpanMarked topics.length report
  answeredEvents : ∀ responses, topics ≠ [] →
    admin (sortedDistinct topics) options = .answered responses →
    topicEvents report.events =
      (sortedDistinct topics).map fun topic => outcomeEvent topic (expectedOutcome responses topic)
  quietEvents : (topics = [] ∨ ∀ responses, admin (sortedDistinct topics) options ≠ .answered responses) →
    topicEvents report.events = []

theorem topicEvents_answered (batchSize : Nat) (topics : List String)
    (responses : List TopicResponse) :
    topicEvents (answeredReport batchSize (sortedDistinct topics) responses).events =
      (sortedDistinct topics).map fun topic =>
        outcomeEvent topic (expectedOutcome responses topic) := by
  rw [topicEvents_answeredReport, reconcile_eq_map,
    sortedDistinct_of_ascending (sortedDistinct_ascending topics), List.map_map]
  apply List.map_congr_left
  intro topic _
  simp only [Function.comp_apply, outcomeOf_firstResult]

theorem showsReport_empty (options : DeleteOptions)
    (admin : List String → DeleteOptions → AdminReply) :
    ShowsReport options admin []
      { request := none, result := .ok (),
        events := [{ level := .debug, message := "No topics to delete" }],
        spanFields := deleteSpanFields 0, logs := [] } :=
  { span := spanMarked_ok rfl (List.append_nil _).symm
    answeredEvents := fun _ nonempty => absurd rfl nonempty
    quietEvents := fun _ => rfl }

theorem showsReport_transport {topics : List String} {options : DeleteOptions}
    {admin : List String → DeleteOptions → AdminReply}
    (notAnswered : ∀ responses, admin (sortedDistinct topics) options ≠ .answered responses)
    (error : TransportError) :
    ShowsReport options admin topics
      (transportReport topics.length (sortedDistinct topics) error) :=
  { span := spanMarked_failed rfl ⟨_, rfl⟩ (fun _ _ => rfl) (fun _ isError => by cases isError)
    answeredEvents := fun responses _ answered => absurd answered (notAnswered responses)
    quietEvents := fun _ => topicEvents_transportReport _ _ _ }

theorem answeredReport_spanFields (batchSize : Nat) (names : List String)
    (responses : List TopicResponse) :
    (answeredReport batchSize names responses).spanFields =
      deleteSpanFields batchSize ++
        (if (failedTopics (reconcile names responses)).isEmpty then []
         else failedSpanFields "failed to delete one or more topic") := rfl

theorem spanMarked_answered (batchSize : Nat) (names : List String)
    (responses : List TopicResponse) :
    SpanMarked batchSize (answeredReport batchSize names responses) := by
  by_cases noFailure : failedTopics (reconcile names responses) = []
  · apply spanMarked_ok
    · rw [answeredReport_result, noFailure, join_nil]
    · rw [answeredReport_spanFields, noFailure]
      rfl
  · have failing : (answeredReport batchSize names responses).result =
        .error (.topics ⟨_, noFailure⟩) := by
      rw [answeredReport_result, join_of_ne_nil noFailure]
    apply spanMarked_failed
    · rw [answeredReport_spanFields, if_neg]
      rwa [List.isEmpty_iff]
    · exact ⟨_, failing⟩
    · intro error isError
      rw [failing] at isError
      cases isError
    · intro errors _
      rfl

theorem showsReport_answered {topics : List String} {options : DeleteOptions}
    {admin : List String → DeleteOptions → AdminReply} {responses : List TopicResponse}
    (nonempty : topics ≠ []) (answered : admin (sortedDistinct topics) options = .answered responses) :
    ShowsReport options admin topics
      (answeredReport topics.length (sortedDistinct topics) responses) := by
  refine ⟨spanMarked_answered _ _ _, ?_, ?_⟩
  · intro others _ answeredOthers
    rw [answered, AdminReply.answered.injEq] at answeredOthers
    rw [← answeredOthers]
    exact topicEvents_answered _ topics responses
  · rintro (empty | notAnswered)
    · exact absurd empty nonempty
    · exact absurd answered (notAnswered responses)

/-- What one delete request shows: its span carries the batch size, and its status is set
exactly when the request returns an error, saying whether the request as a whole or some topic
failed; an answered request emits one event per distinct requested topic, in ascending order, at
the level its outcome calls for (`INFO` deleted, `DEBUG` absent, `WARN` failed with the failure
as its error), and an empty batch, a failed request or a timed out one emits none. -/
theorem deleteTopics_shows_outcomes {options : DeleteOptions}
    {admin : List String → DeleteOptions → AdminReply} {topics : List String}
    {report : DeleteReport} (returned : deleteTopics options admin topics = some report) :
    ShowsReport options admin topics report := by
  by_cases empty : topics = []
  · subst empty
    rw [deleteTopics_nil, Option.some.injEq] at returned
    rw [← returned]
    exact showsReport_empty options admin
  · cases reply : admin (sortedDistinct topics) options with
    | answered responses =>
      rw [deleteTopics_answered empty reply, Option.some.injEq] at returned
      rw [← returned]
      exact showsReport_answered empty reply
    | failed error =>
      rw [deleteTopics_failed empty reply, Option.some.injEq] at returned
      rw [← returned]
      exact showsReport_transport (fun responses => by simp [reply]) _
    | silent =>
      rw [deleteTopics_silent empty reply, Option.map_eq_some_iff] at returned
      obtain ⟨timeout, -, rfl⟩ := returned
      exact showsReport_transport (fun responses => by simp [reply]) _

theorem deleteTopics_shows_outcomes_mixed :
    deleteTopics {} (fun _ _ => .answered [⟨"a", .ok⟩, ⟨"b", .error ⟨41, "NotController", ""⟩⟩])
        ["b", "a", "b"] =
      some (answeredReport 3 ["a", "b"] [⟨"a", .ok⟩, ⟨"b", .error ⟨41, "NotController", ""⟩⟩]) ∧
    ShowsReport {} (fun _ _ => .answered [⟨"a", .ok⟩, ⟨"b", .error ⟨41, "NotController", ""⟩⟩])
      ["b", "a", "b"]
      (answeredReport 3 ["a", "b"] [⟨"a", .ok⟩, ⟨"b", .error ⟨41, "NotController", ""⟩⟩]) :=
  ⟨rfl, deleteTopics_shows_outcomes rfl⟩

end TopicLifecycle.Manager
