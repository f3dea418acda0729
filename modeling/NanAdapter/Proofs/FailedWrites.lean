import NanAdapter.Config
import NanAdapter.Proofs.History

/-! What is left when the answer to a command could not be written. Whatever is only looked at stays, and the command
can be given once more. Counters that are asked for with a reset are taken before anything is written, so they are
gone, whoever got to see them. -/

namespace NanAdapter

namespace Output
variable (out : Output) (text : String)

/-- A write adds the beginning of the text, and is complete if that is all of it. -/
theorem write_eq : ∃ part, part <+: octets text ∧
    out.write text = ({ out with written := out.written ++ part }, decide (part = octets text)) := by
  unfold write
  cases out.limit with
  | none => exact ⟨octets text, List.prefix_rfl, by simp⟩
  | some limit =>
    refine ⟨(octets text).take (limit - out.written.length), List.take_prefix _ _, ?_⟩
    have whole : ((octets text).take (limit - out.written.length)).length = (octets text).length ↔
        (octets text).take (limit - out.written.length) = octets text :=
      ⟨(List.take_prefix _ _).eq_of_length, congrArg List.length⟩
    simp only [whole]

end Output

namespace Adapter
variable {a : Adapter} {command : Command} {out : Output} {fault : CommandFault}

/-- A command fails only for want of room. -/
theorem execute_eq_error :
    (a.execute command out).1 = .error fault ↔
      fault = .unwritable ∧ (out.write ((a.answer command).1 ++ "\n")).2 = false := by
  change (if (out.write ((a.answer command).1 ++ "\n")).2 then Except.ok () else .error CommandFault.unwritable) = _ ↔ _
  cases (out.write ((a.answer command).1 ++ "\n")).2 with
  | true => simp
  | false => simp [eq_comm]

/-- Then not all of its answer was written. -/
theorem written_of_error (failed : (a.execute command out).1 = .error fault) :
    ∃ part, part <+: Output.octets ((a.answer command).1 ++ "\n") ∧
      part ≠ Output.octets ((a.answer command).1 ++ "\n") ∧
      (a.execute command out).2.2 = { out with written := out.written ++ part } := by
  obtain ⟨part, begins, written⟩ := out.write_eq ((a.answer command).1 ++ "\n")
  have short := (execute_eq_error.mp failed).2
  rw [written] at short
  exact ⟨part, begins, of_decide_eq_false short, congrArg Prod.fst written⟩

theorem answer_adapter (a : Adapter) (command : Command) :
    (a.answer command).2 = if command = .counts true then { a with counters := .empty } else a := by
  cases command with
  | channels => rfl
  | counts reset => cases reset <;> rfl

/-- A command that was read is executed, and a failure is told by its code. -/
theorem onCommand_of_error {arguments : List String} (read : Command.ofArguments arguments = .ok command)
    (failed : (a.execute command out).1 = .error fault) (err : Output) :
    (a.onCommand arguments out err).1.code = -1 ∧
      (a.onCommand arguments out err).1.out = (a.execute command out).2.2 ∧
      (a.onCommand arguments out err).2.1 = (a.execute command out).2.1 := by
  cases done : a.execute command out with
  | mk result after =>
    rw [done] at failed
    subst failed
    simp only [onCommand, read, done, and_self]

/-- When the answer to a command could not be written, the adapter is as it was before, except that a reset has
emptied the counters, as one that succeeds does. Any other command can then be given again, with the same answer to
the same output; after a failed reset the answer is that nothing was counted. -/
theorem failed_writes_lose_drained_counts_only {a : Adapter} {command : Command} {out : Output} {fault : CommandFault}
    (failed : (a.execute command out).1 = .error fault) :
    let left := (a.execute command out).2.1
    left = (if command = .counts true then { a with counters := .empty } else a) ∧
      left.channels = a.channels ∧
      (left.counters = a.counters ↔ command ≠ .counts true ∨ a.counters = .empty) ∧
      (∃ part, (a.execute command out).2.2.written = out.written ++ part ∧
        part <+: Output.octets ((a.answer command).1 ++ "\n") ∧
        part ≠ Output.octets ((a.answer command).1 ++ "\n")) ∧
      (command ≠ .counts true → ∀ roomy, left.execute command roomy = a.execute command roomy) ∧
      (command = .counts true → (left.execute command .unlimited).2.2.text = "\x7b\x7d\n") ∧
      ∀ arguments, Command.ofArguments arguments = .ok command → ∀ err,
        (a.onCommand arguments out err).1.code = -1 ∧
          (a.onCommand arguments out err).1.out = (a.execute command out).2.2 ∧
          (a.onCommand arguments out err).2.1 = left := by
  intro left
  have after : left = if command = .counts true then { a with counters := .empty } else a := a.answer_adapter command
  obtain ⟨part, begins, short, written⟩ := written_of_error failed
  refine ⟨after, ?_, ?_, ⟨part, congrArg Output.written written, begins, short⟩, ?_, ?_, ?_⟩
  · rw [after]
    split <;> rfl
  · rw [after]
    by_cases reset : command = .counts true
    · simp [reset, eq_comm]
    · simp [reset]
  · intro kept roomy
    rw [after, if_neg kept]
  · intro reset
    rw [after, if_pos reset, reset]
    change (Output.unlimited.write ((Counters.toJson .empty).text ++ "\n")).1.text = "\x7b\x7d\n"
    decide +kernel
  · exact fun arguments read err => onCommand_of_error read failed err

/-- All that was counted is written and read but for the end of the line. The look at the channels is taken again, with
more room. -/
theorem failed_writes_lose_drained_counts_only_at_the_end :
    let a := ((new .default .recording).performAll
      [.dispatch (.indication (.dataPathTerminated 1)), .dispatch (.indication (.dataPathTerminated 2))]).1
    let tight := Output.limited (some 8)
    a.counters.count .dataPathTerminated = 2 ∧ (a.execute (.counts true) tight).1 = .error .unwritable ∧
      (a.execute (.counts true) tight).2.2.text = "\x7b\"10\":2\x7d" ∧
      (a.execute (.counts true) tight).2.1 = { a with counters := .empty } ∧
      (a.execute .channels (.limited (some 2))).1 = .error .unwritable ∧
      ((a.execute .channels (.limited (some 2))).2.1.execute .channels .unlimited) = a.execute .channels .unlimited := by
  intro a tight
  have reset : (a.execute (.counts true) tight).1 = .error .unwritable :=
    execute_eq_error.mpr ⟨rfl, by decide +kernel⟩
  have look : (a.execute .channels (.limited (some 2))).1 = .error .unwritable :=
    execute_eq_error.mpr ⟨rfl, by decide +kernel⟩
  obtain ⟨drained, -⟩ := failed_writes_lose_drained_counts_only reset
  obtain ⟨-, -, -, -, again, -⟩ := failed_writes_lose_drained_counts_only look
  exact ⟨by decide +kernel, reset, by decide +kernel, drained, look, again (by decide) .unlimited⟩

/-- Two paths have ended, and the output takes nothing. The counts are lost: the next look shows none. -/
theorem drained_counts_are_lost :
    let a := ((new .default .recording).performAll
      [.dispatch (.indication (.dataPathTerminated 1)), .dispatch (.indication (.dataPathTerminated 2))]).1
    let (result, left, _) := a.onCommand ["get_cb_count", "--reset"] (.limited (some 0)) .unlimited
    result.code = -1 ∧ result.out.written = [] ∧ a.counters.count .dataPathTerminated = 2 ∧
      left.counters.count .dataPathTerminated = 0 ∧
      (left.onCommand ["get_cb_count"] .unlimited .unlimited).1.out.text = "\x7b\x7d\n" := by
  decide +kernel

end Adapter

end NanAdapter
