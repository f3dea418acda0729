import Mathlib
import NanAdapter.Config
import NanAdapter.Proofs.Effects
import NanAdapter.Proofs.History

/-! The counters are exact. Each holds the indications of its kind that were accepted since they were
last emptied, and what a drain takes out of them is neither lost nor counted again. -/

namespace NanAdapter

/-- The operation is an accepted indication of that kind, in whatever shape. -/
def Operation.counts (met : Adapter) (kind : IndicationKind) : Operation → Bool
  | .dispatch event => event.kind = .indication kind ∧ (met.dispatch event).1 = .processed
  | _ => false

/-- The operation hands the counters out and empties them. -/
def Operation.drains : Operation → Bool
  | .drainCounters => true
  | .command arguments _ _ =>
    match Command.ofArguments arguments with
    | .ok (.counts reset) => reset
    | _ => false
  | .execute (.counts reset) _ => reset
  | _ => false

def Operation.empties : Operation → Bool
  | .clearCounters => true
  | operation => operation.drains

/-- The reply hands these counters out, as far as the output takes them. -/
def Reply.shows (counters : Counters) : Reply → Prop
  | .counters taken => taken = counters
  | .command ⟨_, out, _⟩ | .executed _ out =>
    out = ((Output.limited out.limit).write (counters.toJson.text ++ "\n")).1
  | _ => False

theorem Counters.get?_increment (c : Counters) (counted kind : IndicationKind) :
    (c.increment counted).get? kind = if kind = counted then some (c.count counted + 1) else c.get? kind := by
  have same : number kind = number counted ↔ kind = counted := ⟨Numbered.number_injective, congrArg number⟩
  simp only [increment, Table.get?_insert, same]

namespace Adapter
variable (kind : IndicationKind)

theorem counters_perform (met : Adapter) (operation : Operation) :
    (met.perform operation).2.1.counters.get? kind =
      if operation.empties then none
      else if operation.counts met kind then some (met.counters.count kind + 1)
      else met.counters.get? kind := by
  cases operation with
  | dispatch event =>
    change (met.dispatch event).2.1.counters.get? kind = _
    rw [dispatch_counters]
    by_cases accepted : (met.dispatch event).1 = .processed
    · cases sort : event.kind with
      | response request => simp [Operation.empties, Operation.drains, Operation.counts, sort, EventKind.counter?]
      | indication counted =>
        by_cases here : kind = counted
        · simp [Operation.empties, Operation.drains, Operation.counts, sort, EventKind.counter?, accepted, here,
            Counters.get?_increment]
        · simp [Operation.empties, Operation.drains, Operation.counts, sort, EventKind.counter?, accepted, here,
            Ne.symm here, Counters.get?_increment]
    · simp [Operation.empties, Operation.drains, Operation.counts, accepted]
  | command arguments outLimit errLimit =>
    change (met.onCommand arguments _ _).2.1.counters.get? kind = _
    rw [onCommand_adapter]
    cases read : Command.ofArguments arguments with
    | error _ => simp [Operation.empties, Operation.drains, Operation.counts, read]
    | ok command =>
      cases command with
      | channels => simp [Operation.empties, Operation.drains, Operation.counts, read, answer]
      | counts reset => cases reset <;> simp [Operation.empties, Operation.drains, Operation.counts, read, answer]
  | execute command outLimit =>
    change (met.answer command).2.counters.get? kind = _
    cases command with
    | channels => rfl
    | counts reset => cases reset <;> rfl
  | upgrade _ | setVerbose _ | resetChannels | clearCounters | drainCounters | count _ | help _ | dump _
  | change _ | lookup _ => rfl

/-- Whatever empties the counters hands them out first, unless they are thrown away. -/
theorem perform_shows (met : Adapter) {operation : Operation} (drained : operation.drains = true) :
    (met.perform operation).1.shows met.counters := by
  cases operation with
  | drainCounters => rfl
  | execute command outLimit =>
    cases command with
    | channels => cases drained
    | counts reset => cases outLimit <;> rfl
  | command arguments outLimit errLimit =>
    cases read : Command.ofArguments arguments with
    | error _ => simp [Operation.drains, read] at drained
    | ok command =>
      cases command with
      | channels => simp [Operation.drains, read] at drained
      | counts reset =>
        change Reply.shows met.counters (.command (met.onCommand arguments _ _).1)
        simp only [onCommand, read, execute, answer]
        cases outLimit with
        | none => rfl
        | some limit => split <;> rfl
  | dispatch _ | upgrade _ | setVerbose _ | resetChannels | clearCounters | count _ | help _ | dump _ | change _
  | lookup _ => cases drained

/-- The indications of that kind that a run accepted after the counters were last emptied. -/
def tally (a : Adapter) (operations : List Operation) : Nat :=
  ((a.history operations).rtakeWhile fun step => !step.2.empties).countP fun step => step.2.counts step.1 kind

def total (a : Adapter) (operations : List Operation) : Nat :=
  (a.history operations).countP fun step => step.2.counts step.1 kind

/-- The counters that a run handed out when it emptied them. -/
def drained (a : Adapter) (operations : List Operation) : List Counters :=
  (a.history operations).filterMap fun step => if step.2.drains then some step.1.counters else none

variable (a : Adapter) (operations : List Operation) (operation : Operation)

private theorem tally_concat :
    a.tally kind (operations ++ [operation]) =
      if operation.empties then 0
      else a.tally kind operations + if operation.counts (a.performAll operations).1 kind then 1 else 0 := by
  simp only [tally, history_append, history, List.rtakeWhile_concat]
  cases operation.empties <;> simp

private theorem total_concat :
    a.total kind (operations ++ [operation]) =
      a.total kind operations + if operation.counts (a.performAll operations).1 kind then 1 else 0 := by
  simp [total, history_append, history]

private theorem drained_concat :
    a.drained (operations ++ [operation]) =
      a.drained operations ++ if operation.drains then [(a.performAll operations).1.counters] else [] := by
  simp only [drained, history_append, history, List.filterMap_append, List.filterMap_cons, List.filterMap_nil]
  cases operation.drains <;> rfl

private theorem performAll_concat :
    (a.performAll (operations ++ [operation])).1 = ((a.performAll operations).1.perform operation).2.1 :=
  a.performAll_append operations [operation]

private theorem get?_performAll_new (config : Config) (sink : AnomalySink) :
    ((new config sink).performAll operations).1.counters.get? kind =
      if (new config sink).tally kind operations = 0 then none
      else some (.ofNat ((new config sink).tally kind operations)) := by
  -- from the last operation backwards: only what comes after the counters were emptied is in the tally
  induction operations using List.reverseRecOn with
  | nil => rfl
  | append_singleton rest operation ih =>
    rw [performAll_concat, counters_perform, tally_concat]
    by_cases emptied : operation.empties = true
    · simp [emptied]
    · by_cases counted : operation.counts ((new config sink).performAll rest).1 kind = true
      · simp only [emptied, counted, Counters.count, ih]
        by_cases fresh : (new config sink).tally kind rest = 0 <;> simp [fresh, UInt32.ofNat_add]
      · simp [emptied, counted, ih]

private theorem count_perform (met : Adapter) :
    (met.perform operation).2.1.counters.count kind =
      if operation.empties then 0
      else met.counters.count kind + if operation.counts met kind then 1 else 0 := by
  simp only [Counters.count, counters_perform]
  cases operation.empties <;> cases operation.counts met kind <;> simp

private theorem conserved (kept : Operation.clearCounters ∉ operations) :
    (((a.drained operations).map fun counters => (counters.count kind).toNat).sum +
        ((a.performAll operations).1.counters.count kind).toNat) % UInt32.size =
      ((a.counters.count kind).toNat + a.total kind operations) % UInt32.size := by
  induction operations using List.reverseRecOn with
  | nil => simp [drained, total, history, performAll]
  | append_singleton rest operation ih =>
    obtain ⟨before, last⟩ : Operation.clearCounters ∉ rest ∧ Operation.clearCounters ≠ operation := by
      simpa using kept
    have same : operation.empties = operation.drains := by
      cases operation <;> first | rfl | exact absurd rfl last
    have ih := ih before
    rw [performAll_concat, count_perform, drained_concat, total_concat, same]
    generalize (a.performAll rest).1 = met at ih ⊢
    simp only [UInt32.size] at ih ⊢
    cases drains : operation.drains with
    | true =>
      -- what the drain takes away is in its answer, and it counts nothing itself
      have uncounted : operation.counts met kind = false := by
        cases operation <;> first | rfl | cases drains
      simpa [uncounted] using ih
    | false =>
      cases operation.counts met kind with
      | true => simp [UInt32.toNat_add]; omega
      | false => simpa using ih

/-- Whatever a run does, and so at every point of it, a counter holds the accepted indications of its
kind since the counters were last emptied, and there is an entry for it if there were any. Responses
and dropped events count for nothing. A drain shows what it takes, and if nothing is thrown away all
drains and what is left together hold every accepted indication once. -/
theorem counters_are_exact (config : Config) (sink : AnomalySink) (operations : List Operation)
    (kind : IndicationKind) :
    let start := new config sink
    let last := (start.performAll operations).1
    (last.counters.count kind).toNat = start.tally kind operations % UInt32.size ∧
      (last.counters.contains kind = true ↔ 1 ≤ start.tally kind operations) ∧
      (∀ e : Event, e.kind.isResponse = true ∨ (last.dispatch e).1 = .dropped →
        (last.dispatch e).2.1.counters = last.counters) ∧
      (∀ step ∈ start.history operations, step.2.drains = true →
        (step.1.perform step.2).1.shows step.1.counters) ∧
      (Operation.clearCounters ∉ operations →
        (((start.drained operations).map fun counters => (counters.count kind).toNat).sum +
            (last.counters.count kind).toNat) % UInt32.size =
          start.total kind operations % UInt32.size) := by
  intro start last
  have entry : last.counters.get? kind =
      if start.tally kind operations = 0 then none else some (.ofNat (start.tally kind operations)) :=
    get?_performAll_new kind operations config sink
  refine ⟨?_, ?_, ?_, fun step _ => perform_shows step.1, ?_⟩
  · rw [Counters.count, entry]
    split
    next untouched => simp [untouched]
    next => exact UInt32.toNat_ofNat
  · rw [Table.contains, entry]
    split <;> simp <;> omega
  · intro e ignored
    rw [dispatch_counters]
    rcases ignored with response | dropped
    · cases e with
      | response _ _ _ => simp [Event.kind, EventKind.counter?]
      | indication _ => cases response
    · simp [dropped]
  · intro kept
    have whole := start.conserved kind operations kept
    have fresh : (start.counters.count kind).toNat = 0 := rfl
    rwa [fresh, Nat.zero_add] at whole

/-- Two expired matches with a drain between them, and an update that is too new to be accepted. -/
theorem counters_are_exact_around_drain :
    let run : List Operation :=
      [.dispatch (.indication (.expired 1 7)), .command ["get_cb_count", "--reset"] none none,
        .dispatch (.indication (.expired 2 7))]
    let update : Event := .indication (.scheduleUpdate ⟨.zero, [4]⟩ (.v1_2 none))
    let start := new .default .recording
    let last := (start.performAll run).1
    Operation.clearCounters ∉ run ∧ (last.dispatch update).1 = .dropped ∧
      (last.counters.count .expired).toNat = 1 ∧ (last.dispatch update).2.1.counters = last.counters ∧
      (∀ step ∈ start.history run, step.2.drains = true → (step.1.perform step.2).1.shows step.1.counters) ∧
      (start.drained run).length = 1 ∧
      (((start.drained run).map fun counters => (counters.count .expired).toNat).sum +
        (last.counters.count .expired).toNat) % UInt32.size = 2 := by
  intro run update start last
  have kept : Operation.clearCounters ∉ run := by simp [run]
  have dropped : (last.dispatch update).1 = .dropped := rfl
  obtain ⟨exact, -, ignored, shown, conserved⟩ := counters_are_exact .default .recording run .expired
  exact ⟨kept, dropped, exact, ignored update (Or.inr dropped), shown, rfl, conserved kept⟩

end Adapter

end NanAdapter
