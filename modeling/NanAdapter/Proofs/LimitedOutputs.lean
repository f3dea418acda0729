import NanAdapter.Proofs.RenderedTables

/-! Outputs that take so many octets and no more. In whatever parts a text is written to one of them, it has the
beginning of the text for which there is room, and the writing is complete exactly if that is all of it. So what an
adapter writes may be cut off at any place, but nothing is left out before that place and nothing comes behind it. -/

namespace NanAdapter

namespace Output
variable {limit : Nat} {written : List UInt8}

/-- Of some octets those for which there is room. -/
def kept (limit : Option Nat) (all : List UInt8) : List UInt8 := limit.elim all fun most => all.take most

theorem kept_some (limit : Nat) (all : List UInt8) : kept (some limit) all = all.take (min limit all.length) :=
  List.take_eq_take_min

theorem kept_some_eq_self {all : List UInt8} : kept (some limit) all = all ↔ all.length ≤ limit :=
  List.take_eq_self_iff all

theorem write_within (room : written.length ≤ limit) (text : String) :
    (Output.mk (some limit) written).write text =
      (⟨some limit, (written ++ octets text).take limit⟩, decide ((written ++ octets text).length ≤ limit)) := by
  have taken : (written ++ octets text).take limit = written ++ (octets text).take (limit - written.length) := by
    rw [List.take_append, List.take_of_length_le room]
  have whole : ((octets text).take (limit - written.length)).length = (octets text).length ↔
      (written ++ octets text).length ≤ limit := by
    rw [List.length_take, List.length_append]
    omega
  rw [taken]
  simp only [write, whole]

theorem writeAll_within (room : written.length ≤ limit) (texts : List String) :
    (Output.mk (some limit) written).writeAll texts =
      (⟨some limit, (written ++ octets (String.join texts)).take limit⟩,
        decide ((written ++ octets (String.join texts)).length ≤ limit)) := by
  induction texts generalizing written with
  | nil =>
    have nothing : written ++ octets (String.join []) = written := List.append_nil written
    rw [writeAll, nothing, List.take_of_length_le room, decide_eq_true room]
  | cons text rest ih =>
    have parts : written ++ octets (String.join (text :: rest)) =
        written ++ octets text ++ octets (String.join rest) := by
      rw [String.join_cons, octets_append, List.append_assoc]
    rw [parts, writeAll, write_within room]
    by_cases fits : (written ++ octets text).length ≤ limit
    · rw [decide_eq_true fits, List.take_of_length_le fits]
      exact ih fits
    · -- The output is full, and what would come next is not even tried.
      have full : limit ≤ (written ++ octets text).length := by omega
      have beyond : ¬ (written ++ octets text ++ octets (String.join rest)).length ≤ limit := by
        rw [List.length_append]
        omega
      rw [decide_eq_false fits, decide_eq_false beyond, List.take_append_of_le_length full]

/-- In whatever parts a text is written, the output keeps the beginning of it, and says whether that is all. -/
theorem writeAll_limited (limit : Option Nat) (texts : List String) :
    let all := octets (String.join texts)
    (limited limit).writeAll texts = (⟨limit, kept limit all⟩, decide (kept limit all = all)) := by
  intro all
  cases limit with
  | none =>
    rw [limited, writeAll_unlimited, List.nil_append]
    exact congrArg _ (decide_eq_true rfl).symm
  | some limit =>
    rw [limited, writeAll_within (Nat.zero_le limit), List.nil_append]
    simp only [kept_some_eq_self]
    rfl

theorem writeAll_singleton (out : Output) (text : String) : out.writeAll [text] = out.write text := by
  rw [writeAll]
  cases out.write text with
  | mk after complete => cases complete <;> rfl

theorem write_limited (limit : Option Nat) (text : String) :
    (limited limit).write text =
      (⟨limit, kept limit (octets text)⟩, decide (kept limit (octets text) = octets text)) := by
  have joined : String.join [text] = text := by rw [String.join_cons, String.join_nil, String.append_empty]
  rw [← writeAll_singleton, writeAll_limited, joined]

end Output

/-- The operation writes something to an output. Arguments that are no command are not executed. -/
def Operation.Writes : Operation → Prop
  | .command arguments _ _ => ∃ command, Command.ofArguments arguments = .ok command
  | .execute _ _ | .help _ | .dump _ => True
  | _ => False

/-- The same operation, with an output that takes so much. -/
def Operation.within (limit : Option Nat) : Operation → Operation
  | .command arguments _ errLimit => .command arguments limit errLimit
  | .execute asked _ => .execute asked limit
  | .help _ => .help limit
  | .dump _ => .dump limit
  | other => other

/-- What was written, and whether the operation succeeded. -/
def Reply.receipt? : Reply → Option (List UInt8 × Bool)
  | .command result => some (result.out.written, result.code = 0)
  | .executed result out => some (out.written, result.isOk)
  | .written out complete => some (out.written, complete)
  | _ => none

namespace Adapter
variable {a : Adapter} {operation : Operation} {arguments : List String} {command : Command}

/-- The line that answers a command. -/
def line (a : Adapter) (command : Command) : String := (a.answer command).1 ++ "\n"

/-- All that an operation writes where there is room. -/
def wording (a : Adapter) : Operation → String
  | .command arguments _ _ => (Command.ofArguments arguments).toOption.elim "" a.line
  | .execute command _ => a.line command
  | .help _ => String.join Command.help
  | .dump _ => String.join a.dump
  | _ => ""

/-- What is said when not all could be written. -/
def complaint : String := CommandFault.unwritable.message ++ "\n"

theorem execute_eq (a : Adapter) (command : Command) (out : Output) :
    a.execute command out = (if (out.write (a.line command)).2 then .ok () else .error .unwritable,
      (a.answer command).2, (out.write (a.line command)).1) := rfl

theorem execute_limited (a : Adapter) (command : Command) (limit : Option Nat) :
    let all := Output.octets (a.line command)
    a.execute command (.limited limit) =
      (if Output.kept limit all = all then .ok () else .error .unwritable, (a.answer command).2,
        ⟨limit, Output.kept limit all⟩) := by
  intro all
  rw [execute_eq, Output.write_limited]
  simp only [decide_eq_true_eq, all]

theorem onCommand_limited (read : Command.ofArguments arguments = .ok command) (limit errLimit : Option Nat) :
    let all := Output.octets (a.line command)
    (a.onCommand arguments (.limited limit) (.limited errLimit)).1 =
      if Output.kept limit all = all then ⟨0, ⟨limit, all⟩, .limited errLimit⟩
      else ⟨-1, ⟨limit, Output.kept limit all⟩, ⟨errLimit, Output.kept errLimit (Output.octets complaint)⟩⟩ := by
  intro all
  have executed : a.execute command (.limited limit) = _ := execute_limited a command limit
  have complained : ((Output.limited errLimit).write (CommandFault.unwritable.message ++ "\n")).1 =
      ⟨errLimit, Output.kept errLimit (Output.octets complaint)⟩ :=
    congrArg Prod.fst (Output.write_limited errLimit complaint)
  by_cases fits : Output.kept limit all = all
  · rw [if_pos fits] at executed ⊢
    simp only [onCommand, read, executed]
    rw [fits]
  · rw [if_neg fits] at executed ⊢
    simp only [onCommand, read, executed, complained]
    rfl

theorem onCommand_whole (read : Command.ofArguments arguments = .ok command) :
    (a.onCommand arguments .unlimited .unlimited).1.out.written = Output.octets (a.line command) := by
  change (a.onCommand arguments (.limited none) (.limited none)).1.out.written = _
  rw [onCommand_limited read]
  exact congrArg (fun result : CommandResult => result.out.written) (if_pos rfl)

/-- What comes of an operation that writes depends on its text and on the room for it, and on nothing else. -/
theorem receipt_perform (writes : operation.Writes) (limit : Option Nat) :
    let all := Output.octets (a.wording operation)
    (a.perform (operation.within limit)).1.receipt? =
      some (Output.kept limit all, decide (Output.kept limit all = all)) := by
  intro all
  cases operation with
  | command arguments outLimit errLimit =>
    obtain ⟨command, read⟩ := writes
    have same : all = Output.octets (a.line command) := by
      change Output.octets ((Command.ofArguments arguments).toOption.elim "" a.line) = _
      rw [read]
      rfl
    change (Reply.command (a.onCommand arguments (.limited limit) (.limited errLimit)).1).receipt? = _
    rw [onCommand_limited read, ← same]
    by_cases fits : Output.kept limit all = all
    · rw [if_pos fits, decide_eq_true fits, fits]
      rfl
    · rw [if_neg fits, decide_eq_false fits]
      rfl
  | execute command outLimit =>
    have same : all = Output.octets (a.line command) := rfl
    change (Reply.executed (a.execute command (.limited limit)).1 (a.execute command (.limited limit)).2.2).receipt? = _
    rw [execute_limited, ← same]
    by_cases fits : Output.kept limit all = all
    · rw [if_pos fits, decide_eq_true fits]
      rfl
    · rw [if_neg fits, decide_eq_false fits]
      rfl
  | help outLimit =>
    change (Reply.written ((Output.limited limit).writeAll Command.help).1
      ((Output.limited limit).writeAll Command.help).2).receipt? = _
    rw [Output.writeAll_limited]
    rfl
  | dump outLimit =>
    change (Reply.written ((Output.limited limit).writeAll a.dump).1
      ((Output.limited limit).writeAll a.dump).2).receipt? = _
    rw [Output.writeAll_limited]
    rfl
  | dispatch _ | upgrade _ | setVerbose _ | resetChannels | clearCounters | drainCounters | count _ | change _
  | lookup _ => exact writes.elim

/-- An output with room for `limit` octets gets the beginning of the text that the same operation writes where there is
room for all of it, in whatever parts the text is written, and the operation succeeds if and only if that is everything.
A command that succeeds says nothing beside its answer. One that fails says what happened, as far as there is room for
that. -/
theorem limited_outputs_take_the_beginning (a : Adapter) (limit : Nat) :
    (∀ operation : Operation, operation.Writes →
      let whole := Output.octets (a.wording operation)
      let taken := whole.take (min limit whole.length)
      (a.perform (operation.within none)).1.receipt? = some (whole, true) ∧
        (a.perform (operation.within (some limit))).1.receipt? = some (taken, decide (whole.length ≤ limit)) ∧
        ∀ parts : List String, String.join parts = a.wording operation →
          (Output.limited (some limit)).writeAll parts = (⟨some limit, taken⟩, decide (whole.length ≤ limit))) ∧
    ∀ arguments command errLimit, Command.ofArguments arguments = .ok command →
      let whole := (a.onCommand arguments .unlimited .unlimited).1.out.written
      let result := (a.onCommand arguments (.limited (some limit)) (.limited errLimit)).1
      result.out.written = whole.take (min limit whole.length) ∧
        (whole.length ≤ limit → result.code = 0 ∧ result.err.written = []) ∧
        (limit < whole.length →
          result.code = -1 ∧ result.err.written = Output.kept errLimit (Output.octets complaint)) := by
  constructor
  · intro operation writes whole
    refine ⟨?_, ?_, ?_⟩
    · rw [receipt_perform writes]
      exact congrArg (fun all => some (whole, all)) (decide_eq_true rfl)
    · rw [receipt_perform writes]
      simp only [Output.kept_some_eq_self]
      rw [Output.kept_some]
    · intro parts same
      rw [Output.writeAll_limited, same]
      simp only [Output.kept_some_eq_self]
      rw [Output.kept_some]
  · intro arguments command errLimit read whole result
    have found : result = _ := onCommand_limited read (some limit) errLimit
    rw [← onCommand_whole read] at found
    by_cases fits : whole.length ≤ limit
    · rw [if_pos (Output.kept_some_eq_self.mpr fits)] at found
      rw [found]
      refine ⟨?_, fun _ => ⟨rfl, rfl⟩, fun short => absurd fits (Nat.not_le.mpr short)⟩
      rw [Nat.min_eq_right fits, List.take_length]
    · rw [if_neg fun all => fits (Output.kept_some_eq_self.mp all), Output.kept_some] at found
      rw [found]
      exact ⟨rfl, fun whole => absurd whole fits, fun _ => ⟨rfl, rfl⟩⟩

/-- The room ends where a line of the description does, and then before the end of the line that answers a command. -/
theorem limited_outputs_take_the_beginning_between_lines :
    let a := ((new .default .recording).performAll
      [.dispatch (.indication (.dataPathTerminated 1)), .dispatch (.indication (.dataPathTerminated 2))]).1
    let result := (a.onCommand ["get_cb_count", "--reset"] (.limited (some 8)) (.limited (some 6))).1
    (Operation.dump none).Writes ∧
      (a.perform (.dump (some 19))).1.receipt? = some (Output.octets "AwareEventAdapter:\n", false) ∧
      Command.ofArguments ["get_cb_count", "--reset"] = .ok (.counts true) ∧ result.code = -1 ∧
      result.out.written = Output.octets "\x7b\"10\":2\x7d" ∧ result.err.written = Output.octets "Failed" := by
  intro a result
  have read : Command.ofArguments ["get_cb_count", "--reset"] = .ok (.counts true) := by decide
  obtain ⟨described, -⟩ := limited_outputs_take_the_beginning a 19
  obtain ⟨-, cut, -⟩ := described (.dump none) trivial
  obtain ⟨-, commanded⟩ := limited_outputs_take_the_beginning a 8
  obtain ⟨written, -, failed⟩ := commanded _ _ (some 6) read
  obtain ⟨code, said⟩ := failed (by decide +kernel)
  exact ⟨trivial, cut.trans (by decide +kernel), read, code, written.trans (by decide +kernel),
    said.trans (by decide +kernel)⟩

end Adapter

end NanAdapter
