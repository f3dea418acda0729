import NanAdapter.Proofs.Effects

/-! Runs of operations, and what each operation of a run found when its turn came. -/

namespace NanAdapter.Adapter

/-- The operations of a run, each with the adapter that it finds. -/
def history : Adapter → List Operation → List (Adapter × Operation)
  | _, [] => []
  | a, operation :: rest => (a, operation) :: (a.perform operation).2.1.history rest

theorem performAll_append (a : Adapter) (first later : List Operation) :
    (a.performAll (first ++ later)).1 = ((a.performAll first).1.performAll later).1 := by
  induction first generalizing a with
  | nil => rfl
  | cons operation rest ih => exact ih (a.perform operation).2.1

theorem history_append (a : Adapter) (first later : List Operation) :
    a.history (first ++ later) = a.history first ++ (a.performAll first).1.history later := by
  induction first generalizing a with
  | nil => rfl
  | cons operation rest ih => exact congrArg ((a, operation) :: ·) (ih (a.perform operation).2.1)

/-- What the operations of a run lead to: the reply to each, the adapter after it, and what others get to
see of it. -/
def steps (a : Adapter) (operations : List Operation) : List (Reply × Adapter × Journal) :=
  (a.history operations).map fun step => step.1.perform step.2

@[simp] theorem steps_cons (a : Adapter) (operation : Operation) (rest : List Operation) :
    a.steps (operation :: rest) = a.perform operation :: (a.perform operation).2.1.steps rest := rfl

theorem calls_performAll (a : Adapter) (operations : List Operation) :
    (a.performAll operations).2.calls = (a.steps operations).flatMap fun step => step.2.2.calls := by
  induction operations generalizing a with
  | nil => rfl
  | cons operation rest ih =>
    exact congrArg ((a.perform operation).2.2.calls ++ ·) (ih (a.perform operation).2.1)

/-- A step of a run is taken by the adapter that the operations before it have left. -/
theorem mem_steps {a : Adapter} {operations : List Operation} {step : Reply × Adapter × Journal}
    (member : step ∈ a.steps operations) :
    ∃ first operation later,
      operations = first ++ operation :: later ∧ step = (a.performAll first).1.perform operation := by
  induction operations generalizing a with
  | nil => cases member
  | cons operation rest ih =>
    rcases List.mem_cons.mp member with rfl | member
    · exact ⟨[], operation, rest, rfl, rfl⟩
    · obtain ⟨first, taken, later, split, met⟩ := ih member
      exact ⟨operation :: first, taken, later, congrArg (operation :: ·) split, met⟩

/-- A command leaves behind what its answer leaves behind, whether or not all of the answer could be
written. -/
theorem onCommand_adapter (a : Adapter) (arguments : List String) (out err : Output) :
    (a.onCommand arguments out err).2.1 =
      match Command.ofArguments arguments with
      | .ok command => (a.answer command).2
      | .error _ => a := by
  unfold onCommand
  cases Command.ofArguments arguments with
  | error fault => rfl
  | ok command =>
    simp only [execute]
    split <;> simp_all

/-- An answer leaves everything but the counters as it is. -/
theorem answer_keeps (a : Adapter) (command : Command) :
    (a.answer command).2 = { a with counters := (a.answer command).2.counters } := by
  cases command with
  | channels => rfl
  | counts reset => cases reset <;> rfl

theorem answer_channels (a : Adapter) (command : Command) : (a.answer command).2.channels = a.channels := by
  rw [answer_keeps]

theorem onCommand_keeps (a : Adapter) (arguments : List String) (out err : Output) :
    (a.onCommand arguments out err).2.1 = { a with counters := (a.onCommand arguments out err).2.1.counters } := by
  rw [onCommand_adapter]
  cases Command.ofArguments arguments with
  | error _ => rfl
  | ok command => exact a.answer_keeps command

theorem perform_register (a : Adapter) (operation : Operation) :
    (a.perform operation).2.1.register =
      match operation with
      | .upgrade revision => a.register.raise revision
      | _ => a.register := by
  cases operation with
  | dispatch e => exact a.run_register _
  | command arguments outLimit errLimit =>
    change (a.onCommand arguments _ _).2.1.register = a.register
    rw [onCommand_keeps]
  | execute command outLimit =>
    change (a.answer command).2.register = a.register
    rw [answer_keeps]
  | upgrade _ | setVerbose _ | resetChannels | clearCounters | drainCounters | count _ | help _ | dump _ | change _
  | lookup _ => rfl

theorem perform_sink (a : Adapter) (operation : Operation) : (a.perform operation).2.1.sink = a.sink := by
  cases operation with
  | dispatch e =>
    change (a.run _).1.sink = a.sink
    rw [run_keeps]
  | command arguments outLimit errLimit =>
    change (a.onCommand arguments _ _).2.1.sink = a.sink
    rw [onCommand_keeps]
  | execute command outLimit =>
    change (a.answer command).2.sink = a.sink
    rw [answer_keeps]
  | upgrade _ | setVerbose _ | resetChannels | clearCounters | drainCounters | count _ | help _ | dump _ | change _
  | lookup _ => rfl

end NanAdapter.Adapter
