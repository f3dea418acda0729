import NanAdapter.Proofs.ArgumentLooks
import NanAdapter.Proofs.FailedWrites
import NanAdapter.Proofs.OptionMessages

/-! The grammar of the diagnostic commands, stated apart from how arguments are read. Six lists of arguments are
commands. Of any other list the first argument that is out of place is to blame, and nothing comes of it but a
message. -/

namespace NanAdapter

namespace Command

/-- The lists of arguments that stand for a command. -/
def spellings : Command → List (List String)
  | .counts false => [["get_cb_count"], ["get_cb_count", "--"]]
  | .counts true => [["get_cb_count", "--reset"], ["get_cb_count", "--reset", "--"]]
  | .channels => [["get_channel_info"], ["get_channel_info", "--"]]

/-- What is wrong with an argument among the options. It depends on whether `--reset` is an option at all, and whether
it was given before. -/
inductive Objection (resettable reset : Bool) : String → OptionFault → Prop where
  | word {argument : String} (apart : argument = "-" ∨ argument.toList.head? ≠ some '-') :
      Objection resettable reset argument (.unexpected argument)
  | short {first : Char} (rest : List Char) (apart : first ≠ '-') :
      Objection resettable reset (String.ofList ('-' :: first :: rest)) (.unexpected (String.ofList ['-', first]))
  | long {name : String} (given : name ≠ "") (bare : '=' ∉ name.toList)
      (other : resettable = true → name ≠ "reset") :
      Objection resettable reset ("--" ++ name) (.unexpected ("--" ++ name))
  | valued {name : String} (value : String) (bare : '=' ∉ name.toList)
      (other : resettable = true → name ≠ "reset") :
      Objection resettable reset ("--" ++ name ++ "=" ++ value) (.unexpected ("--" ++ name))
  | needless (value : String) (known : resettable = true) :
      Objection resettable reset ("--reset=" ++ value) (.valueOfReset value)
  | repeated (known : resettable = true) (before : reset = true) : Objection resettable reset "--reset" .repeatedReset

/-- The first of the options that is out of place, and what is wrong with it. Whatever stands behind a separator is. -/
inductive Offends (resettable : Bool) : (reset : Bool) → List String → OptionFault → Prop where
  | here {reset : Bool} {argument : String} {rest : List String} {fault : OptionFault}
      (objection : Objection resettable reset argument fault) : Offends resettable reset (argument :: rest) fault
  | behind {reset : Bool} {argument : String} {rest : List String} :
      Offends resettable reset ("--" :: argument :: rest) (.unexpected argument)
  | later {rest : List String} {fault : OptionFault} (known : resettable = true)
      (later : Offends resettable true rest fault) : Offends resettable false ("--reset" :: rest) fault

section
variable {resettable reset : Bool}

theorem options_of_objection {argument : String} {fault : OptionFault}
    (objection : Objection resettable reset argument fault) (rest : List String) :
    options resettable reset (argument :: rest) = .error fault := by
  have sees {look : Argument} (typed : look.Typed argument) : Argument.of argument = look :=
    Argument.of_eq_iff.mpr typed
  rw [options.eq_def]
  cases objection with
  | word apart => simp only [sees (.word apart)]
  | @short first letters apart => simp only [sees (.short letters apart)]
  | @long name given bare other =>
    simp only [sees (.long given bare)]
    exact if_neg fun both => other both.1 both.2
  | @valued name value bare other =>
    simp only [sees (.valued value bare)]
    exact if_neg fun both => other both.1 both.2
  | needless value known =>
    have bare : '=' ∉ "reset".toList := by decide
    simp only [sees (.valued value bare), known, and_self, if_true]
  | repeated known before =>
    subst known before
    rfl

/-- An argument is a separator, or the option that is still to come, or there is something wrong with it. -/
theorem separator_or_reset_or_objection (resettable reset : Bool) (argument : String) :
    argument = "--" ∨ (resettable = true ∧ reset = false ∧ argument = "--reset") ∨
      ∃ fault, Objection resettable reset argument fault := by
  obtain ⟨look, typed⟩ : ∃ look, Argument.Typed look argument := ⟨_, Argument.of_eq_iff.mp rfl⟩
  cases typed with
  | separator => exact .inl rfl
  | word apart => exact .inr (.inr ⟨_, .word apart⟩)
  | short rest apart => exact .inr (.inr ⟨_, .short rest apart⟩)
  | @long name given bare =>
    by_cases known : resettable = true ∧ name = "reset"
    · obtain ⟨known, rfl⟩ := known
      cases before : reset with
      | false => exact .inr (.inl ⟨known, rfl, rfl⟩)
      | true => exact .inr (.inr ⟨_, .repeated known rfl⟩)
    · exact .inr (.inr ⟨_, .long given bare fun resets same => known ⟨resets, same⟩⟩)
  | @valued name value bare =>
    by_cases known : resettable = true ∧ name = "reset"
    · obtain ⟨known, rfl⟩ := known
      exact .inr (.inr ⟨_, .needless value known⟩)
    · exact .inr (.inr ⟨_, .valued value bare fun resets same => known ⟨resets, same⟩⟩)

private theorem of_separator {rest : List String} {result : Bool}
    (taken : options resettable reset ("--" :: rest) = .ok result) : rest = [] ∧ result = reset := by
  cases rest with
  | nil =>
    cases taken
    exact ⟨rfl, rfl⟩
  | cons next rest => cases taken

/-- Options are taken if there is nothing but a reset that was still to come, and perhaps a separator at the end. -/
theorem options_eq_ok {list : List String} {result : Bool} :
    options resettable reset list = .ok result ↔
      list ∈ [[], ["--"]] ∧ result = reset ∨
        list ∈ [["--reset"], ["--reset", "--"]] ∧ resettable = true ∧ reset = false ∧ result = true := by
  constructor
  · intro taken
    induction list generalizing reset with
    | nil =>
      cases taken
      exact .inl ⟨.head _, rfl⟩
    | cons argument rest ih =>
      obtain rfl | ⟨rfl, rfl, rfl⟩ | ⟨fault, objection⟩ := separator_or_reset_or_objection resettable reset argument
      · obtain ⟨rfl, rfl⟩ := of_separator taken
        exact .inl ⟨.tail _ (.head _), rfl⟩
      -- no second reset is to come, so what follows is nothing or a separator
      · obtain ⟨listed, rfl⟩ | ⟨-, -, again, -⟩ := ih taken
        · exact .inr ⟨List.mem_map_of_mem (f := ("--reset" :: ·)) listed, rfl, rfl, rfl⟩
        · cases again
      · rw [options_of_objection objection] at taken
        cases taken
  · rintro (⟨listed, rfl⟩ | ⟨listed, rfl, rfl, rfl⟩)
    · obtain rfl | rfl : list = [] ∨ list = ["--"] := by simpa using listed
      · rw [options.eq_def]
      · rfl
    · obtain rfl | rfl : list = ["--reset"] ∨ list = ["--reset", "--"] := by simpa using listed
      · rfl
      · rfl

/-- Options are refused for the first one that is out of place. Whether there was a reset before changes on the way, so
the induction is over all cases of that. -/
theorem options_eq_error {list : List String} {fault : OptionFault} :
    options resettable reset list = .error fault ↔ Offends resettable reset list fault := by
  constructor
  · intro refused
    induction list generalizing reset with
    | nil =>
      rw [options.eq_def] at refused
      cases refused
    | cons argument rest ih =>
      obtain rfl | ⟨rfl, rfl, rfl⟩ | ⟨cause, objection⟩ := separator_or_reset_or_objection resettable reset argument
      · cases rest with
        | nil => cases refused
        | cons next rest =>
          cases refused
          exact .behind
      · exact .later rfl (ih refused)
      · rw [options_of_objection objection] at refused
        cases refused
        exact .here objection
  · intro offends
    induction offends with
    | here objection => exact options_of_objection objection _
    | behind => rfl
    | later known _ ih =>
      subst known
      exact ih

end

/-- What whoever typed no command is told: that nothing was typed, that the first word is no command, or which of its
options is out of place. -/
inductive Refused : List String → CommandFault → Prop where
  | missing : Refused [] .missing
  | unknown {name : String} (rest : List String) (notCounts : name ≠ "get_cb_count")
      (notChannels : name ≠ "get_channel_info") : Refused (name :: rest) (.unknown name)
  | counts {rest : List String} {fault : OptionFault} (offends : Offends true false rest fault) :
      Refused ("get_cb_count" :: rest) (.options "get_cb_count" fault)
  | channels {rest : List String} {fault : OptionFault} (offends : Offends false false rest fault) :
      Refused ("get_channel_info" :: rest) (.options "get_channel_info" fault)

theorem ofArguments_counts (rest : List String) : ofArguments (countsName :: rest) =
    ((options true false rest).map .counts).mapError (.options countsName) := by
  rw [ofArguments, if_pos rfl]
  cases options true false rest with
  | ok reset => rfl
  | error fault => rfl

theorem ofArguments_channels (rest : List String) : ofArguments (channelsName :: rest) =
    ((options false false rest).map fun _ => .channels).mapError (.options channelsName) := by
  have apart : channelsName ≠ countsName := by decide +kernel
  rw [ofArguments, if_neg apart, if_pos rfl]
  cases options false false rest with
  | ok reset => rfl
  | error fault => rfl

theorem ofArguments_other {name : String} (notCounts : name ≠ countsName) (notChannels : name ≠ channelsName)
    (rest : List String) : ofArguments (name :: rest) = .error (.unknown name) := by
  rw [ofArguments, if_neg notCounts, if_neg notChannels]

/-- Every list is a command or refused, and what is said of it is right. -/
theorem ofArguments_sound (arguments : List String) :
    match ofArguments arguments with
    | .ok command => arguments ∈ command.spellings
    | .error fault => Refused arguments fault := by
  cases arguments with
  | nil => exact .missing
  | cons name rest =>
    by_cases counts : name = countsName
    · subst counts
      rw [ofArguments_counts]
      cases read : options true false rest with
      | error fault => exact .counts (options_eq_error.mp read)
      | ok reset =>
        obtain ⟨listed, rfl⟩ | ⟨listed, -, -, rfl⟩ := options_eq_ok.mp read
        · exact List.mem_map_of_mem (f := (countsName :: ·)) listed
        · exact List.mem_map_of_mem (f := (countsName :: ·)) listed
    · by_cases channels : name = channelsName
      · subst channels
        rw [ofArguments_channels]
        cases read : options false false rest with
        | error fault => exact .channels (options_eq_error.mp read)
        | ok reset =>
          obtain ⟨listed, -⟩ | ⟨-, absurd, -⟩ := options_eq_ok.mp read
          · exact List.mem_map_of_mem (f := (channelsName :: ·)) listed
          · cases absurd
      · rw [ofArguments_other counts channels]
        exact .unknown rest counts channels

/-- A list is read as a command if it is one of its spellings. -/
theorem ofArguments_eq_ok {arguments : List String} {command : Command} :
    ofArguments arguments = .ok command ↔ arguments ∈ command.spellings := by
  constructor
  · intro read
    have sound := ofArguments_sound arguments
    rw [read] at sound
    exact sound
  · intro spelled
    have read : ∀ spelling ∈ command.spellings, ofArguments spelling = .ok command := by
      match command with
      | .counts false | .counts true | .channels => decide +kernel
    exact read arguments spelled

/-- It is refused with a fault if that is what is wrong with it. -/
theorem ofArguments_eq_error {arguments : List String} {fault : CommandFault} :
    ofArguments arguments = .error fault ↔ Refused arguments fault := by
  constructor
  · intro read
    have sound := ofArguments_sound arguments
    rw [read] at sound
    exact sound
  · intro refused
    cases refused with
    | missing => rfl
    | unknown rest notCounts notChannels => exact ofArguments_other notCounts notChannels rest
    | @counts rest cause offends =>
      have read := ofArguments_counts rest
      rw [options_eq_error.mpr offends] at read
      exact read
    | @channels rest cause offends =>
      have read := ofArguments_channels rest
      rw [options_eq_error.mpr offends] at read
      exact read

theorem reset_iff {arguments : List String} {reset : Bool} (spelled : arguments ∈ (counts reset).spellings) :
    reset = true ↔ "--reset" ∈ arguments := by
  have listed : ∀ spelling ∈ (counts reset).spellings, (reset = true ↔ "--reset" ∈ spelling) := by
    cases reset <;> decide +kernel
  exact listed arguments spelled

end Command

namespace Adapter
variable {arguments : List String} {fault : CommandFault}

/-- A list that is no command gets a message and changes nothing. -/
theorem onCommand_of_refused (refused : Command.ofArguments arguments = .error fault) (a : Adapter) (out : Output)
    (written : List UInt8) :
    (a.onCommand arguments out ⟨none, written⟩).1 = ⟨-1, out, none, written ++ Output.octets (fault.message ++ "\n")⟩ ∧
      (a.onCommand arguments out ⟨none, written⟩).2.1 = a := by
  unfold onCommand
  rw [refused]
  exact ⟨rfl, rfl⟩

end Adapter

namespace Command

/-- A command is read if the arguments are one of its spellings, and `--reset` resets. Any other list is refused for
what is wrong with it first. The message tells what that is and quotes it up to a line break, and literally unless it
would control a terminal. It goes to the second output, and nothing else happens. -/
theorem commands_are_read_exactly (arguments : List String) :
    (∀ command, ofArguments arguments = .ok command ↔ arguments ∈ command.spellings) ∧
      (∀ reset, ofArguments arguments = .ok (.counts reset) → (reset = true ↔ "--reset" ∈ arguments)) ∧
      ∀ fault, (ofArguments arguments = .error fault ↔ Refused arguments fault) ∧
        (∀ name cause, fault = .options name cause →
          fault.message = "Unknown option to '" ++ name ++ "': " ++ Text.firstLine cause.shown.wording ∧
          ((∀ c ∈ cause.foreign.toList, Text.isPlain c = true) → cause.shown = cause) ∧
          ('\n' ∉ cause.foreign.toList → Text.firstLine cause.wording = cause.wording) ∧
          ∀ line mark rest, cause.foreign = line ++ mark ++ rest → mark = "\n" ∨ mark = "\r\n" →
            '\n' ∉ line.toList → line.toList.getLast? ≠ some '\r' →
            Text.firstLine cause.wording = cause.opening ++ line) ∧
        (Refused arguments fault → ∀ (a : Adapter) (out : Output) (written : List UInt8),
          let (result, after, _) := a.onCommand arguments out ⟨none, written⟩
          result = ⟨-1, out, none, written ++ Output.octets (fault.message ++ "\n")⟩ ∧ after = a) := by
  refine ⟨fun command => ofArguments_eq_ok, ?_, ?_⟩
  · intro reset read
    exact reset_iff (ofArguments_eq_ok.mp read)
  · intro fault
    refine ⟨ofArguments_eq_error, ?_, ?_⟩
    · rintro name cause rfl
      refine ⟨?_, cause.shown_of_plain, cause.firstLine_wording, ?_⟩
      · rw [← cause.message_eq]
        rfl
      · intro line mark rest cut breaks unbroken ended
        exact cause.firstLine_wording_of_broken cut breaks unbroken ended
    · intro refused a out written
      exact a.onCommand_of_refused (ofArguments_eq_error.mpr refused) out written

/-- A separator may stand at the end. Here it is a word of two lines, and the second one is not quoted. -/
theorem commands_are_read_exactly_up_to_words :
    let spelled := ["get_cb_count", "--reset", "--"]
    let arguments := ["get_cb_count", "--reset", "all\nof them"]
    let fault := CommandFault.options "get_cb_count" (.unexpected "all\nof them")
    let message := "Unknown option to 'get_cb_count': unexpected argument 'all"
    ofArguments spelled = .ok (.counts true) ∧ "--reset" ∈ spelled ∧
      ofArguments arguments = .error fault ∧ fault.message = message ∧
      ∀ (a : Adapter) (out : Output), (a.onCommand arguments out .unlimited).1.code = -1 ∧
        (a.onCommand arguments out .unlimited).1.err.written = Output.octets (message ++ "\n") ∧
        (a.onCommand arguments out .unlimited).2.1 = a := by
  intro spelled arguments fault message
  obtain ⟨taken, resets, -⟩ := commands_are_read_exactly spelled
  have read : ofArguments spelled = .ok (.counts true) := (taken _).mpr (by decide)
  obtain ⟨-, -, told⟩ := commands_are_read_exactly arguments
  obtain ⟨refusal, detail, nothing⟩ := told fault
  have refused : Refused arguments fault := .counts (.later rfl (.here (.word (.inr (by decide)))))
  obtain ⟨opens, plain, -, cut⟩ := detail _ _ rfl
  have plainly : "all\nof them".toList.all Text.isPlain = true := by decide +kernel
  have said : fault.message = message := by
    rw [opens, plain (List.all_eq_true.mp plainly),
      cut "all" "\n" "of them" (by decide +kernel) (.inl rfl) (by decide +kernel) (by decide +kernel)]
    decide +kernel
  refine ⟨read, (resets true read).mp rfl, refusal.mpr refused, said, ?_⟩
  intro a out
  obtain ⟨answered, kept⟩ := nothing refused a out []
  rw [said] at answered
  exact ⟨congrArg (·.code) answered, congrArg (·.err.written) answered, kept⟩

end Command

end NanAdapter
