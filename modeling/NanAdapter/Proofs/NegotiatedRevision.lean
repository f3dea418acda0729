import NanAdapter.Proofs.Announcements
import NanAdapter.Proofs.CounterHistory
import NanAdapter.Proofs.RevisionGate

/-! Two adapters that perform the same operations, one of them at a lower revision. The revision decides
what is accepted and which shapes are reported, and nothing else: what both accept they handle alike. -/

namespace NanAdapter

theorem Revision.max_le_max {low high : Revision} (below : low ≤ high) (r : Revision) : max low r ≤ max high r := by
  revert below
  cases low <;> cases high <;> cases r <;> decide

/-- What fits a revision fits every later one. -/
theorem Event.outcome_of_le {low high : Revision} (below : low ≤ high) {e : Event}
    (accepted : e.outcome low = .processed) : e.outcome high = .processed := by
  cases outcome : e.outcome high with
  | processed => rfl
  | dropped =>
    obtain ⟨tooNew, other⟩ := (e.outcome_eq_dropped high).mp outcome
    have dropped := (e.outcome_eq_dropped low).mpr ⟨UInt8.lt_of_le_of_lt below tooNew, other⟩
    rw [dropped] at accepted
    cases accepted

namespace Adapter

/-- Both adapters hold a revision, and the first holds no later one than the second. -/
def Below (low high : Adapter) : Prop :=
  ∃ lower higher : Revision,
    low.register = .ofRevision lower ∧ high.register = .ofRevision higher ∧ lower ≤ higher

/-- The adapters have counted and stored the same. -/
structure Alike (first second : Adapter) : Prop where
  counters : first.counters = second.counters
  channels : first.channels = second.channels

/-- The events of a run that were dropped. -/
def dropped (a : Adapter) (operations : List Operation) : List Event :=
  (a.history operations).filterMap fun step =>
    match step.2 with
    | .dispatch e => if (step.1.dispatch e).1 = .dropped then some e else none
    | _ => none

variable {low high : Adapter}

namespace Below

theorem accepts (below : Below low high) {e : Event} (accepted : (low.dispatch e).1 = .processed) :
    (high.dispatch e).1 = .processed := by
  obtain ⟨lower, higher, held, held', le⟩ := below
  refine Event.outcome_of_le ?_ accepted
  simpa only [revision, held, held', Register.revision_ofRevision] using le

/-- An upgrade raises both, and nothing else moves either. -/
theorem perform (below : Below low high) (operation : Operation) :
    Below (low.perform operation).2.1 (high.perform operation).2.1 := by
  obtain ⟨lower, higher, held, held', le⟩ := below
  simp only [Below, perform_register]
  cases operation with
  | upgrade r =>
    refine ⟨max lower r, max higher r, ?_, ?_, Revision.max_le_max le r⟩
    · simp only [held, Register.raise_ofRevision]
    · simp only [held', Register.raise_ofRevision]
  | dispatch _ | setVerbose _ | resetChannels | clearCounters | drainCounters | count _ | command _ _ _ | execute _ _
  | help _ | dump _ | change _ | lookup _ => exact ⟨lower, higher, held, held', le⟩

theorem performAll (below : Below low high) (operations : List Operation) :
    Below (low.performAll operations).1 (high.performAll operations).1 := by
  induction operations generalizing low high with
  | nil => exact below
  | cons operation rest ih => exact ih (below.perform operation)

theorem counts (below : Below low high) {kind : IndicationKind} {operation : Operation}
    (counted : operation.counts low kind = true) : operation.counts high kind = true := by
  cases operation with
  | dispatch e =>
    simp only [Operation.counts, decide_eq_true_eq] at counted ⊢
    exact counted.imp_right below.accepts
  | upgrade _ | setVerbose _ | resetChannels | clearCounters | drainCounters | count _ | command _ _ _ | execute _ _
  | help _ | dump _ | change _ | lookup _ => cases counted

theorem total_le (below : Below low high) (kind : IndicationKind) (operations : List Operation) :
    low.total kind operations ≤ high.total kind operations := by
  induction operations generalizing low high with
  | nil => exact Nat.le_refl _
  | cons operation rest ih =>
    have later := ih (below.perform operation)
    simp only [total, history, List.countP_cons] at later ⊢
    by_cases counted : operation.counts low kind = true
    · simp only [counted, below.counts counted, if_true]
      omega
    · simp only [if_neg counted]
      omega

theorem forwards_sublist (below : Below low high) (operation : Operation) :
    (operation.forwards low).Sublist (operation.forwards high) := by
  cases operation with
  | dispatch e =>
    simp only [Operation.forwards, dispatch_notifications]
    by_cases accepted : (low.dispatch e).1 = .processed
    · simp only [accepted, below.accepts accepted, if_true]
      exact List.Sublist.refl _
    · simp only [accepted, if_false]
      exact List.nil_sublist _
  | upgrade _ | setVerbose _ | resetChannels | clearCounters | drainCounters | count _ | command _ _ _ | execute _ _
  | help _ | dump _ | change _ | lookup _ => exact List.nil_sublist _

theorem notifications_sublist (below : Below low high) (operations : List Operation) :
    (low.performAll operations).2.notifications.Sublist (high.performAll operations).2.notifications := by
  induction operations generalizing low high with
  | nil => exact List.nil_sublist _
  | cons operation rest ih =>
    have now := below.forwards_sublist operation
    simp only [← notifications_perform] at now
    simp only [Adapter.performAll, Journal.notifications_append]
    exact now.append (ih (below.perform operation))

end Below

namespace Alike

theorem dispatch (alike : Alike low high) {e : Event} (accepted : (low.dispatch e).1 = .processed)
    (accepted' : (high.dispatch e).1 = .processed) : Alike (low.dispatch e).2.1 (high.dispatch e).2.1 := by
  constructor
  · simp only [dispatch_counters, accepted, accepted', if_true, alike.counters]
  · simp only [dispatch_channels, accepted, accepted', if_true, alike.channels]

theorem answer (alike : Alike low high) (command : Command) :
    Alike (low.answer command).2 (high.answer command).2 := by
  cases command with
  | channels => exact alike
  | counts reset =>
    cases reset with
    | false => exact alike
    | true => exact ⟨rfl, alike.channels⟩

theorem perform (alike : Alike low high) (operation : Operation)
    (accepted : ∀ e, operation = .dispatch e →
      (low.dispatch e).1 = .processed ∧ (high.dispatch e).1 = .processed) :
    Alike (low.perform operation).2.1 (high.perform operation).2.1 := by
  cases operation with
  | dispatch e => exact alike.dispatch (accepted e rfl).1 (accepted e rfl).2
  | command arguments outLimit errLimit =>
    change Alike (low.onCommand arguments _ _).2.1 (high.onCommand arguments _ _).2.1
    simp only [onCommand_adapter]
    cases Command.ofArguments arguments with
    | error _ => exact alike
    | ok command => exact alike.answer command
  | execute command outLimit => exact alike.answer command
  | resetChannels => exact ⟨alike.counters, rfl⟩
  | clearCounters | drainCounters => exact ⟨rfl, alike.channels⟩
  | change change => exact ⟨alike.counters, congrArg (ChannelCache.change · change) alike.channels⟩
  | upgrade _ | setVerbose _ => exact ⟨alike.counters, alike.channels⟩
  | count _ | help _ | dump _ | lookup _ => exact alike

/-- Whoever accepts the same and has the same afterwards has shown the same. -/
theorem calls (alike : Alike low high) (operation : Operation)
    (accepted : ∀ e, operation = .dispatch e →
      (low.dispatch e).1 = .processed ∧ (high.dispatch e).1 = .processed) :
    (low.perform operation).2.2.calls = (high.perform operation).2.2.calls := by
  simp only [perform_calls]
  cases operation with
  | dispatch e =>
    obtain ⟨here, there⟩ := accepted e rfl
    have after := alike.dispatch here there
    simp only [dispatch_calls, here, there, after.counters, after.channels]
  | upgrade _ | setVerbose _ | resetChannels | clearCounters | drainCounters | count _ | command _ _ _ | execute _ _
  | help _ | dump _ | change _ | lookup _ => rfl

end Alike

private theorem accepted_of_dropped {a : Adapter} {operation : Operation} {rest : List Operation}
    (nothing : a.dropped (operation :: rest) = []) :
    (∀ e, operation = .dispatch e → (a.dispatch e).1 = .processed) ∧
      (a.perform operation).2.1.dropped rest = [] := by
  obtain ⟨first, later⟩ := List.forall_mem_cons.mp (List.filterMap_eq_nil_iff.mp nothing)
  refine ⟨?_, List.filterMap_eq_nil_iff.mpr later⟩
  rintro e rfl
  cases outcome : (a.dispatch e).1 with
  | processed => rfl
  | dropped => simp [outcome] at first

theorem Below.same_of_dropped (below : Below low high) (alike : Alike low high) (operations : List Operation)
    (nothing : low.dropped operations = []) :
    (low.performAll operations).2.calls = (high.performAll operations).2.calls ∧
      Alike (low.performAll operations).1 (high.performAll operations).1 := by
  induction operations generalizing low high with
  | nil => exact ⟨rfl, alike⟩
  | cons operation rest ih =>
    obtain ⟨first, later⟩ := accepted_of_dropped nothing
    have both : ∀ e, operation = .dispatch e →
        (low.dispatch e).1 = .processed ∧ (high.dispatch e).1 = .processed :=
      fun e here => ⟨first e here, below.accepts (first e here)⟩
    obtain ⟨calls, after⟩ := ih (below.perform operation) (alike.perform operation both) later
    refine ⟨?_, after⟩
    simp only [Adapter.performAll, Journal.calls_append, alike.calls operation both, calls]

/-- What an adapter at a later revision makes of the operations of another. -/
structure Covers (high low : Adapter) (operations : List Operation) : Prop where
  accepted : ∀ first e later, operations = first ++ .dispatch e :: later →
    ((low.performAll first).1.dispatch e).1 = .processed →
      ((high.performAll first).1.dispatch e).1 = .processed
  notifications :
    (low.performAll operations).2.notifications.Sublist (high.performAll operations).2.notifications
  counted : ∀ kind, low.total kind operations ≤ high.total kind operations
  /-- The calls are the same also in what they find. -/
  same : low.dropped operations = [] → low.counters = high.counters → low.channels = high.channels →
    (low.performAll operations).2.calls = (high.performAll operations).2.calls ∧
      (low.performAll operations).1.counters = (high.performAll operations).1.counters ∧
      (low.performAll operations).1.channels = (high.performAll operations).1.channels

/-- An adapter at a later revision accepts, announces and counts all that one at an earlier revision does
that performs the same operations. If that one drops nothing, there is no difference between them but
in the shapes that they report. -/
theorem revision_decides_acceptance_only (below : Below low high) (operations : List Operation) :
    Covers high low operations where
  accepted := fun first _ _ _ => (below.performAll first).accepts
  notifications := below.notifications_sublist operations
  counted := fun kind => below.total_le kind operations
  same := by
    intro nothing counters channels
    obtain ⟨calls, after⟩ := below.same_of_dropped ⟨counters, channels⟩ operations nothing
    exact ⟨calls, after.counters, after.channels⟩

/-- An update that the earlier revision drops before it is raised, and accepts afterwards. -/
theorem revision_decides_acceptance_around_upgrade :
    let low := new .default .recording
    let high := new .latest .nowhere
    let update : Operation := .dispatch (.indication (.scheduleUpdate ⟨.zero, [4]⟩ (.v1_2 none)))
    let expiry : Operation := .dispatch (.indication (.expired 1 7))
    Below low high ∧
      Covers high low [update, expiry] ∧
        (low.performAll [update, expiry]).2.notifications = [.expired 1 7] ∧
        low.dropped [expiry, .upgrade .v1_2, update] = [] ∧
        (low.performAll [expiry, .upgrade .v1_2, update]).2.calls =
          (high.performAll [expiry, .upgrade .v1_2, update]).2.calls := by
  intro low high update expiry
  have below : Below low high := ⟨.v1_0, .v1_6, rfl, rfl, by decide⟩
  have after := (revision_decides_acceptance_only below [expiry, .upgrade .v1_2, update]).same rfl rfl rfl
  exact ⟨below, revision_decides_acceptance_only below [update, expiry], rfl, rfl, after.1⟩

end Adapter

end NanAdapter
