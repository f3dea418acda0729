import NanAdapter.Proofs.Announcements
import NanAdapter.Proofs.RevisionGate

/-! Counters and channels are there to be looked at, and nothing else. Whatever they hold, and whoever
shows, empties or changes them between two events, the events are processed as if nobody had. -/

namespace NanAdapter

/-- The operation is about counters, channels and what diagnostics show of them. -/
def Operation.introspects : Operation → Bool
  | .dispatch _ | .upgrade _ | .setVerbose _ => false
  | .resetChannels | .clearCounters | .drainCounters | .count _ | .command _ _ _ | .execute _ _ | .help _ | .dump _
  | .change _ | .lookup _ => true

/-- What is left of a run without the operations between its events. -/
def Operation.undisturbed (operations : List Operation) : List Operation :=
  operations.filter fun operation => !operation.introspects

def Reply.outcome? : Reply → Option Outcome
  | .outcome became => some became
  | _ => none

namespace Adapter

/-- What became of the events of a run. -/
def outcomes (a : Adapter) (operations : List Operation) : List Outcome :=
  (a.steps operations).filterMap fun step => step.1.outcome?

/-- Nothing but an event is reported. -/
theorem perform_anomalies (a : Adapter) (operation : Operation) :
    (a.perform operation).2.2.anomalies =
      match operation with
      | .dispatch e => (a.dispatch e).2.2.anomalies
      | _ => [] := by
  cases operation with
  | upgrade revision =>
    simp only [perform, upgrade]
    split <;> rfl
  | command arguments outLimit errLimit =>
    simp only [perform, onCommand]
    split <;> rfl
  | dispatch _ | setVerbose _ | resetChannels | clearCounters | drainCounters | count _ | execute _ _ | help _
  | dump _ | change _ | lookup _ => rfl

theorem outcome?_perform (a : Adapter) (operation : Operation) :
    (a.perform operation).1.outcome? =
      match operation with
      | .dispatch e => some (a.dispatch e).1
      | _ => none := by
  cases operation <;> rfl

/-- What an event leads to is decided by the revision that the adapter holds. -/
theorem dispatch_congr {a b : Adapter} (same : a.revision = b.revision) (e : Event) :
    (a.dispatch e).1 = (b.dispatch e).1 ∧
      (a.dispatch e).2.2.notifications = (b.dispatch e).2.2.notifications ∧ a.reports e = b.reports e := by
  have outcome : (a.dispatch e).1 = (b.dispatch e).1 := congrArg e.outcome same
  refine ⟨outcome, ?_, ?_⟩
  · rw [dispatch_notifications, dispatch_notifications, outcome]
  · rw [reports_eq, reports_eq, same]

/-- The adapters hold the same revision and report to the same sink. -/
structure Peers (a b : Adapter) : Prop where
  register : a.register = b.register
  sink : a.sink = b.sink

namespace Peers
variable {a b : Adapter}

theorem revision (peers : Peers a b) : a.revision = b.revision := congrArg Register.revision peers.register

theorem anomalies (peers : Peers a b) (e : Event) :
    (a.dispatch e).2.2.anomalies = (b.dispatch e).2.2.anomalies := by
  have outcome := (dispatch_congr peers.revision e).1
  rw [dispatch_anomalies, dispatch_anomalies, outcome, peers.revision, peers.sink]

theorem perform (peers : Peers a b) (operation : Operation) :
    Peers (a.perform operation).2.1 (b.perform operation).2.1 where
  register := by rw [perform_register, perform_register, peers.register]
  sink := by rw [perform_sink, perform_sink, peers.sink]

theorem introspect (peers : Peers a b) {operation : Operation} (apart : operation.introspects = true) :
    Peers (a.perform operation).2.1 b where
  register := by
    rw [perform_register, ← peers.register]
    cases operation <;> first | rfl | cases apart
  sink := by rw [perform_sink, peers.sink]

end Peers

variable {a b : Adapter}

private theorem silent {operation : Operation} (apart : operation.introspects = true) :
    (a.perform operation).1.outcome? = none ∧ (a.perform operation).2.2.notifications = [] ∧
      (a.perform operation).2.2.anomalies = [] := by
  rw [outcome?_perform, notifications_perform, perform_anomalies]
  cases operation <;> first | exact ⟨rfl, rfl, rfl⟩ | cases apart

private theorem spoken (peers : Peers a b) {operation : Operation} (part : operation.introspects = false) :
    (a.perform operation).1.outcome? = (b.perform operation).1.outcome? ∧
      (a.perform operation).2.2.notifications = (b.perform operation).2.2.notifications ∧
      (a.perform operation).2.2.anomalies = (b.perform operation).2.2.anomalies := by
  rw [outcome?_perform, outcome?_perform, perform_anomalies, perform_anomalies]
  cases operation with
  | dispatch e =>
    obtain ⟨outcome, notifications, -⟩ := dispatch_congr peers.revision e
    exact ⟨congrArg some outcome, notifications, peers.anomalies e⟩
  | upgrade _ | setVerbose _ =>
    rw [notifications_perform, notifications_perform]
    exact ⟨rfl, rfl, rfl⟩
  | resetChannels | clearCounters | drainCounters | count _ | command _ _ _ | execute _ _ | help _ | dump _ | change _
  | lookup _ => cases part

/-- The runs need not have counted and stored the same: one of them may have been emptied in between. -/
theorem Peers.undisturbed (peers : Peers a b) (operations : List Operation) :
    a.outcomes operations = b.outcomes (Operation.undisturbed operations) ∧
      (a.performAll operations).2.notifications = (b.performAll (Operation.undisturbed operations)).2.notifications ∧
      (a.performAll operations).2.anomalies = (b.performAll (Operation.undisturbed operations)).2.anomalies := by
  induction operations generalizing a b with
  | nil => exact ⟨rfl, rfl, rfl⟩
  | cons operation rest ih =>
    cases apart : operation.introspects with
    | true =>
      obtain ⟨outcome, announced, reported⟩ := silent (a := a) apart
      obtain ⟨outcomes, notifications, anomalies⟩ := ih (peers.introspect apart)
      have left : Operation.undisturbed (operation :: rest) = Operation.undisturbed rest :=
        List.filter_cons_of_neg (by simp [apart])
      rw [left, ← outcomes, ← notifications, ← anomalies]
      simp only [Adapter.outcomes, steps_cons, List.filterMap_cons, outcome, performAll, Journal.notifications_append,
        announced, Journal.anomalies_append, reported, List.nil_append, and_self]
    | false =>
      obtain ⟨outcome, announced, reported⟩ := spoken peers apart
      obtain ⟨outcomes, notifications, anomalies⟩ := ih (peers.perform operation)
      have kept : Operation.undisturbed (operation :: rest) = operation :: Operation.undisturbed rest :=
        List.filter_cons_of_pos (by simp [apart])
      rw [kept]
      simp only [Adapter.outcomes] at outcomes ⊢
      simp only [steps_cons, List.filterMap_cons, outcome, outcomes, performAll, Journal.notifications_append,
        announced, notifications, Journal.anomalies_append, reported, anomalies, and_self]

/-- Adapters at the same revision process an event alike, whatever they have counted and stored. So nothing
that is looked at, emptied or changed between the events of a run makes a difference to what becomes of
them, what is announced and what is reported. -/
theorem introspection_changes_no_processing {a b : Adapter} (same : a.revision = b.revision) :
    (∀ e : Event,
      (a.dispatch e).1 = (b.dispatch e).1 ∧
        (a.dispatch e).2.2.notifications = (b.dispatch e).2.2.notifications ∧ a.reports e = b.reports e) ∧
      ∀ operations : List Operation,
        a.outcomes operations = a.outcomes (Operation.undisturbed operations) ∧
          (a.performAll operations).2.notifications =
            (a.performAll (Operation.undisturbed operations)).2.notifications ∧
          (a.performAll operations).2.anomalies = (a.performAll (Operation.undisturbed operations)).2.anomalies := by
  have peers : Peers a a := ⟨rfl, rfl⟩
  exact ⟨dispatch_congr same, peers.undisturbed⟩

/-- Two reports about one path, between them a drain that nobody could read and a cleared cache. -/
theorem introspection_changes_no_processing_between_updates :
    let a := new .latest .recording
    let b : Adapter := { a with channels := a.channels.insert 4 [⟨5180, .mhz80, 2⟩] }
    let update : Event := .indication (.scheduleUpdate ⟨.zero, [4]⟩ (.v1_2 none))
    a.revision = b.revision ∧ a.channels.get? 4 ≠ b.channels.get? 4 ∧
      (a.dispatch update).2.2.notifications = (b.dispatch update).2.2.notifications ∧
      (a.performAll [.dispatch update, .command ["get_cb_count", "--reset"] (some 0) none, .change .clear,
          .dispatch update]).2.notifications =
        (a.performAll [.dispatch update, .dispatch update]).2.notifications := by
  intro a b update
  have processing := introspection_changes_no_processing (a := a) (b := b) rfl
  refine ⟨rfl, by decide, (processing.1 update).2.1, ?_⟩
  exact (processing.2 [.dispatch update, .command ["get_cb_count", "--reset"] (some 0) none, .change .clear,
    .dispatch update]).2.1

end Adapter

end NanAdapter
