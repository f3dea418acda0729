import NanAdapter.Proofs.LeadingFlags
import NanAdapter.Proofs.Observation
import NanAdapter.Proofs.PrintedLines
import NanAdapter.Proofs.PumpedReplay
import NanAdapter.Proofs.WholeTexts
import NanAdapter.Replay.Program

/-! The replay program from its arguments to its end. It replays the whole trace or nothing of it, what it writes is
decided by the trace and by what it is asked to show, and how the events get to the adapter makes no difference. A pump
that is not to be had is the only thing that keeps it from a trace that is in order. -/

namespace NanAdapter

theorem Schema.read_list_lift {item : Schema α} {source : Source} {blame : φ → Fault} {parts : List Json}
    {values : List α} :
    (list item).read blame source (Json.array parts).lift = .ok values ↔
      List.Forall₂ (fun part value => item.read blame source part.lift = .ok value) parts values := by
  rw [Json.array, Doc.lift, read]
  induction parts generalizing values with
  | nil =>
    simp only [Items.ofList, Items.lift, Items.mapM, Except.ok.injEq, List.forall₂_nil_left_iff]
    exact eq_comm
  | cons part rest ih =>
    rw [List.forall₂_cons_left_iff]
    constructor
    · intro taken
      obtain ⟨value, first, taken⟩ := bind_eq_ok.mp taken
      obtain ⟨others, later, same⟩ := bind_eq_ok.mp taken
      cases same
      exact ⟨value, others, first, ih.mp later, rfl⟩
    · intro each
      obtain ⟨value, others, first, later, rfl⟩ := each
      exact bind_eq_ok.mpr ⟨value, first, bind_eq_ok.mpr ⟨others, ih.mpr later, rfl⟩⟩

/-- The text is an array, and its elements are events. -/
def Trace.Holds (text : String) (events : List Event) : Prop :=
  ∃ parts, Json.ofText text = .ok (.array parts) ∧
    List.Forall₂ (fun part e => Event.schema.read Break.fault .text (Doc.lift part) = .ok e) parts events

theorem Trace.holds_iff {text : String} {events : List Event} : Holds text events ↔ ofText text = .ok events := by
  rw [ofText_eq_ok, Schema.ofText_eq_ok Trace.settles]
  constructor
  · intro holds
    obtain ⟨parts, whole, each⟩ := holds
    exact ⟨_, whole, Schema.read_list_lift.mpr each⟩
  · intro taken
    obtain ⟨json, whole, taken⟩ := taken
    cases json with
    | arr items =>
      rw [← Items.ofList_toList items] at whole taken
      exact ⟨items.toList, whole, Schema.read_list_lift.mp taken⟩
    | flawed flaw => exact flaw.reading.elim
    | null | bool _ | int _ | real _ | str _ | obj _ => simp [schema, Schema.read, Doc.lift] at taken

namespace Progress

/-- The journals of the steps, later ones behind earlier ones. -/
private theorem foldl_journals (steps : List (Outcome × Journal)) (later : Journal) :
    steps.foldl (fun later step => step.2 ++ later) later =
      steps.foldl (fun later step => step.2 ++ later) .empty ++ later := by
  induction steps generalizing later with
  | nil => rfl
  | cons step rest ih =>
    rw [List.foldl_cons, List.foldl_cons, ih, ih (step.2 ++ .empty), Journal.append_empty, Journal.append_assoc]

theorem journal_dispatch (p : Progress) (e : Event) :
    (p.dispatch e).result.journal = p.result.journal ++ (p.adapter.dispatch e).2.2 := by
  refine (foldl_journals p.steps _).trans ?_
  exact congrArg (p.result.journal ++ ·) (Journal.append_empty _)

/-- A replay where the events are performs their dispatches, one after the other. -/
theorem foldl_dispatch (p : Progress) (events : List Event) :
    (events.foldl dispatch p).adapter = (p.adapter.performAll (events.map .dispatch)).1 ∧
      (events.foldl dispatch p).result.journal =
        p.result.journal ++ (p.adapter.performAll (events.map .dispatch)).2 := by
  induction events generalizing p with
  | nil => exact ⟨rfl, (Journal.append_empty _).symm⟩
  | cons e rest ih =>
    obtain ⟨adapter, journal⟩ := ih (p.dispatch e)
    refine ⟨adapter, journal.trans ?_⟩
    rw [journal_dispatch, Journal.append_assoc]
    rfl

end Progress

theorem Adapter.replay_eq_performAll (a : Adapter) (events : List Event) :
    (a.replay events).adapter = (a.performAll (events.map .dispatch)).1 ∧
      (a.replay events).journal = (a.performAll (events.map .dispatch)).2 :=
  Progress.foldl_dispatch (.start a) events

/-- Through the pump the events do the same, whatever fits into the queue. -/
theorem Adapter.replayPumped_eq_performAll (a : Adapter) (config : Config) (events : List Event) :
    (a.replayPumped config events).adapter = (a.performAll (events.map .dispatch)).1 ∧
      (a.replayPumped config events).journal.notifications =
        (a.performAll (events.map .dispatch)).2.notifications := by
  obtain ⟨schedule, p, ran, finished, reached⟩ :=
    (Pump.start config a events).exists_schedule_finish (Pump.sound_start config a events)
  obtain ⟨-, result, -⟩ := (Pump.orderly_of_run? ran).finished finished
  have done : (Pump.start config a events).finish.result = a.replay events := by rw [← reached, result]
  obtain ⟨adapter, journal⟩ := a.replay_eq_performAll events
  rw [replayPumped, done, ← adapter, ← journal]
  refine ⟨rfl, ?_⟩
  simp [Journal.notifications, Journal.ofLog]

namespace Replay

/-- All that is needed before the first event is dispatched is there. -/
structure Options.Ready (options : Options) (env : Environment) (file : String → Except FileFault String)
    (config : Config) (events : List Event) : Prop where
  mode : options.verbose = true ∨ ∃ mode, LogMode.ofEnvironment env = .ok mode
  config : ∃ found, Config.ofEnvironment env = .ok found ∧
    config = ⟨options.revision.getD found.revision, options.verbose || found.verbose, found.capacity⟩
  trace : ∃ text, file options.trace = .ok text ∧ Trace.Holds text events

/-- Something is wrong that keeps the program from replaying anything. -/
inductive Options.Refused (options : Options) (env : Environment) (file : String → Except FileFault String) : Prop where
  | config {fault : ConfigFault} (invalid : Config.ofEnvironment env = .error fault)
  | mode {fault : LogMode.Unknown} (asked : options.verbose = false)
      (unknown : LogMode.ofEnvironment env = .error fault)
  | unreadable {fault : FileFault} (closed : file options.trace = .error fault)
  | noTrace {text : String} (opened : file options.trace = .ok text) (other : ∀ events, ¬ Trace.Holds text events)

namespace Options
variable {options : Options} {env : Environment} {file : String → Except FileFault String}

theorem config_eq_ok {config : Config} :
    options.config env = .ok config ↔ ∃ found, Config.ofEnvironment env = .ok found ∧
      config = ⟨options.revision.getD found.revision, options.verbose || found.verbose, found.capacity⟩ := by
  rw [Options.config, bind_eq_ok]
  simp only [pure, Except.pure, Except.ok.injEq, eq_comm]

theorem prepare_eq_ok {config : Config} {events : List Event} :
    options.prepare env file = .ok (config, events) ↔ options.Ready env file config events := by
  have loaded : (do
      let config ← (options.config env).mapError Failure.config
      let text ← (file options.trace).mapError (Failure.unreadable options.trace)
      let events ← (Trace.ofText text).mapError (Failure.noTrace options.trace)
      return (config, events)) = Except.ok (config, events) ↔
        options.config env = .ok config ∧ ∃ text, file options.trace = .ok text ∧ Trace.Holds text events := by
    simp [bind_eq_ok, mapError_eq_ok, Trace.holds_iff, pure, Except.pure]
  unfold prepare
  by_cases verbose : options.verbose = true
  · dsimp only
    rw [if_neg (not_not_intro verbose)]
    refine loaded.trans ?_
    rw [config_eq_ok]
    exact ⟨fun found => ⟨.inl verbose, found.1, found.2⟩, fun ready => ⟨ready.config, ready.trace⟩⟩
  · dsimp only
    rw [if_pos verbose, bind_eq_ok]
    simp only [loaded, mapError_eq_ok, config_eq_ok]
    constructor
    · intro found
      obtain ⟨mode, known, config, trace⟩ := found
      exact ⟨.inr ⟨mode, known⟩, config, trace⟩
    · intro ready
      obtain ⟨mode, known⟩ := ready.mode.resolve_left verbose
      exact ⟨mode, known, ready.config, ready.trace⟩

theorem exists_ready (accepted : ¬ options.Refused env file) :
    ∃ config events, options.Ready env file config events := by
  have mode : options.verbose = true ∨ ∃ mode, LogMode.ofEnvironment env = .ok mode := by
    cases asked : options.verbose with
    | true => exact .inl rfl
    | false =>
      cases known : LogMode.ofEnvironment env with
      | ok mode => exact .inr ⟨mode, rfl⟩
      | error fault => exact absurd (.mode asked known) accepted
  cases valid : Config.ofEnvironment env with
  | error fault => exact absurd (.config valid) accepted
  | ok found =>
    cases opened : file options.trace with
    | error fault => exact absurd (.unreadable opened) accepted
    | ok text =>
      cases taken : Trace.ofText text with
      | error fault =>
        refine absurd (.noTrace opened fun events holds => ?_) accepted
        cases taken.symm.trans (Trace.holds_iff.mp holds)
      | ok events => exact ⟨_, events, mode, ⟨found, valid, rfl⟩, text, opened, Trace.holds_iff.mpr taken⟩

theorem Refused.not_ready (refused : options.Refused env file) {config : Config} {events : List Event} :
    ¬ options.Ready env file config events := by
  intro ready
  cases refused with
  | config invalid =>
    obtain ⟨found, valid, -⟩ := ready.config
    cases invalid.symm.trans valid
  | mode asked unknown =>
    rcases ready.mode with verbose | known
    · cases asked.symm.trans verbose
    · obtain ⟨mode, known⟩ := known
      cases unknown.symm.trans known
  | unreadable closed =>
    obtain ⟨text, opened, -⟩ := ready.trace
    cases closed.symm.trans opened
  | noTrace opened other =>
    obtain ⟨text, opened', holds⟩ := ready.trace
    cases opened.symm.trans opened'
    exact other events holds

end Options

/-- What the program shows of a replay that has left this adapter and these notifications, and how it ends. -/
structure Shows (options : Options) (a : Adapter) (notifications : List Notification) (ending : Ending) : Prop where
  out : ending.out =
    (if options.quiet then "" else String.join (notifications.map fun n => n.line ++ "\n")) ++
      (if options.dump then String.join a.dump else "") ++
      (if options.words = [] then "" else (a.onCommand options.words .unlimited .unlimited).1.out.text)
  code : ending.code = 0 ↔ options.words = [] ∨ (a.onCommand options.words .unlimited .unlimited).1.code = 0
  failure : ending.code = 0 ∨ ending.code = 1

theorem Options.report_eq (options : Options) (done : Replayed) :
    options.report done =
      (if options.quiet then "" else String.join (done.journal.notifications.map fun n => n.line ++ "\n")) ++
        if options.dump then String.join done.adapter.dump else "" := by
  rw [report, String.join_append]
  cases options.quiet <;> cases options.dump <;> rfl

theorem Options.shows_conclude (options : Options) (done : Replayed) :
    Shows options done.adapter done.journal.notifications (options.conclude done) := by
  unfold conclude
  rw [report_eq]
  dsimp only
  split
  next none =>
    refine ⟨?_, iff_of_true rfl (.inl none), .inl rfl⟩
    rw [if_pos none, String.append_empty]
  next some =>
    split
    next succeeded => exact ⟨by rw [if_neg some], iff_of_true rfl (.inr succeeded), .inl rfl⟩
    next failed =>
      have one : ¬ (1 : UInt8) = 0 := by decide
      exact ⟨by rw [if_neg some], iff_of_false one (not_or_intro some failed), .inr rfl⟩

/-- The adapter after the events, and what it has told of them. -/
def replayed (config : Config) (events : List Event) : Adapter × Journal :=
  (Adapter.new config .nowhere).performAll (events.map .dispatch)

/-- A pump is to be had of that size, if one is asked for. -/
def Options.Granted (options : Options) (supply : Supply) (config : Config) : Prop :=
  options.pump = true → supply (Pump.size config) = .ok ()

theorem Options.shows_replay {options : Options} {supply : Supply} {config : Config} (events : List Event)
    (granted : options.Granted supply config) :
    Shows options (replayed config events).1 (replayed config events).2.notifications
      (options.replay supply config events) := by
  unfold replay
  dsimp only
  split
  next pumped =>
    obtain ⟨adapter, notifications⟩ := (Adapter.new config .nowhere).replayPumped_eq_performAll config events
    rw [granted pumped, replayed, ← adapter, ← notifications]
    exact options.shows_conclude _
  next =>
    obtain ⟨adapter, journal⟩ := (Adapter.new config .nowhere).replay_eq_performAll events
    rw [replayed, ← adapter, ← journal]
    exact options.shows_conclude _

theorem verbose_replayed (config : Config) (events : List Event) :
    (replayed config events).1.verbose = config.verbose := by
  have kept (a : Adapter) : (a.performAll (events.map .dispatch)).1.verbose = a.verbose := by
    induction events generalizing a with
    | nil => rfl
    | cons e rest ih =>
      refine (ih (a.dispatch e).2.1).trans ?_
      change (a.run _).1.verbose = a.verbose
      rw [Adapter.run_keeps]
  exact kept _

/-- Configurations of one revision make no difference but in tracing. -/
theorem replayed_congr {config other : Config} (same : other.revision = config.revision) (events : List Event) :
    Adapter.Twins (replayed config events).1 (replayed other events).1 ∧
      (replayed config events).2.notifications = (replayed other events).2.notifications := by
  have twins : Adapter.Twins (.new config .nowhere) (.new other .nowhere) :=
    ⟨⟨rfl, rfl⟩, congrArg Register.ofRevision same.symm⟩
  have runs : Adapter.Indistinguishable (.new config .nowhere) (.new other .nowhere) (events.map .dispatch)
      (events.map .dispatch) := .placed twins rfl
  exact ⟨runs.state, congrArg (List.map Call.notification) runs.calls⟩

/-- The line of a description that says whether callbacks are traced. -/
def verboseLine (on : Bool) : String := "  verbose: " ++ (if on then "true" else "false") ++ "\n"

/-- Adapters in the same state are described alike, but for one line. -/
theorem dump_of_twins {a b : Adapter} (twins : Adapter.Twins a b) :
    ∃ before after, String.join a.dump = before ++ verboseLine a.verbose ++ after ∧
      String.join b.dump = before ++ verboseLine b.verbose ++ after := by
  refine ⟨"AwareEventAdapter:\n" ++ ("  revision: " ++ a.revision.text ++ "\n"),
    ("  callback counts: " ++ a.counters.toJson.text ++ "\n") ++ ("  channel info: " ++ a.channels.toJson.text ++ "\n"),
    ?_, ?_⟩
  · simp only [Adapter.dump, String.join_cons, verboseLine, String.append_assoc]
    rfl
  · simp only [Adapter.dump, String.join_cons, verboseLine, String.append_assoc, twins.revision, twins.counters,
      twins.channels]
    rfl

/-- Two programs that show the same things of adapters in the same state differ in one line at most. -/
theorem Shows.alike {options : Options} {pump verbose : Bool} {a b : Adapter} {notifications : List Notification}
    {ending other : Ending} (twins : Adapter.Twins a b) (shown : Shows options a notifications ending)
    (shown' : Shows { options with pump, verbose } b notifications other) :
    other.code = ending.code ∧ ∃ before after,
      ending.out = before ++ (if options.dump then verboseLine a.verbose else "") ++ after ∧
        other.out = before ++ (if options.dump then verboseLine b.verbose else "") ++ after := by
  have answer := (twins.onCommand options.words .unlimited .unlimited).1
  constructor
  · have same : other.code = 0 ↔ ending.code = 0 := by
      rw [shown.code, shown'.code, answer]
    rcases shown.failure with zero | one
    · rw [zero, same.mpr zero]
    · have failed : ¬ other.code = 0 := by
        rw [same, one]
        decide
      rw [one, shown'.failure.resolve_left failed]
  · obtain ⟨before, after, dump, dump'⟩ := dump_of_twins twins
    have out := shown.out
    have out' := shown'.out
    dsimp only at out'
    rw [← answer] at out'
    generalize (if options.quiet then "" else String.join (notifications.map fun n => n.line ++ "\n")) = told
      at out out'
    generalize (if options.words = [] then "" else _) = answered at out out'
    cases wanted : options.dump with
    | false =>
      rw [wanted] at out out'
      exact ⟨told, answered, out, out'⟩
    | true =>
      rw [wanted, if_pos rfl] at out out'
      refine ⟨told ++ before, after ++ answered, ?_, ?_⟩
      · rw [out, dump, if_pos rfl]
        simp only [String.append_assoc]
      · rw [out', dump', if_pos rfl]
        simp only [String.append_assoc]

/-- All that is promised of the program once its arguments are read. -/
structure Faithful (supply : Supply) (arguments : List String) (env : Environment)
    (file : String → Except FileFault String) (options : Options) : Prop where
  decided : ¬ options.Refused env file ↔ ∃ config events, options.Ready env file config events
  /-- Nothing is shown of a trace unless all of it is in order. -/
  refused : options.Refused env file →
    (run supply arguments env file).code = 1 ∧ (run supply arguments env file).out = ""
  shown : ∀ {config events}, options.Ready env file config events → options.Granted supply config →
    Shows options (replayed config events).1 (replayed config events).2.notifications (run supply arguments env file)
  /-- A pump that is not to be had is the end of it, whatever there is to replay. -/
  collapsed : ∀ {config events collapse}, options.Ready env file config events → options.pump = true →
    supply (Pump.size config) = .error collapse →
      (run supply arguments env file).code ≠ 0 ∧ (run supply arguments env file).out = ""
  /-- How the events get to the adapter makes no difference, nor does the capacity of the queue, and tracing shows in
  one line of the description. -/
  agrees : ∀ {pump verbose supply' arguments' env' config events config' events'},
    Options.ofArguments arguments' = .ok { options with pump, verbose } →
    (∀ key, key ≠ Config.capacityKey → env' key = env key) →
    options.Ready env file config events → options.Granted supply config →
    Options.Ready { options with pump, verbose } env' file config' events' →
    Options.Granted { options with pump, verbose } supply' config' →
      (run supply' arguments' env' file).code = (run supply arguments env file).code ∧
        (verbose = options.verbose → (run supply' arguments' env' file).out = (run supply arguments env file).out) ∧
        ∃ before after,
          (run supply arguments env file).out =
              before ++ (if options.dump then verboseLine config.verbose else "") ++ after ∧
            (run supply' arguments' env' file).out =
              before ++ (if options.dump then verboseLine config'.verbose else "") ++ after
  /-- To ask for the pump or for traces refuses nothing that was in order before. -/
  stays : ∀ {config events} (pump : Bool), options.Ready env file config events →
    Options.Ready { options with pump } env file config events ∧
      Options.Ready { options with pump, verbose := true } env file { config with verbose := true } events
  /-- Every flag without a value can be added before all other arguments. -/
  flags : ∀ {flag}, options.asks flag = some false →
    Options.ofArguments (flag.long :: arguments) = .ok (options.raise flag)
  /-- Every notification stands on a line of its own. -/
  lines : ∀ n : Notification, '\n' ∉ n.line.toList

section Runs
variable {supply : Supply} {arguments : List String} {env : Environment} {file : String → Except FileFault String}
  {options : Options}

theorem run_of_ready (parsed : Options.ofArguments arguments = .ok options) {config : Config} {events : List Event}
    (ready : options.Ready env file config events) :
    run supply arguments env file = options.replay supply config events := by
  rw [run, parsed]
  dsimp only
  rw [Options.prepare_eq_ok.mpr ready]

theorem run_of_refused (parsed : Options.ofArguments arguments = .ok options) (refused : options.Refused env file) :
    ∃ failure : Failure, run supply arguments env file = ⟨1, "", failure.message⟩ := by
  rw [run, parsed]
  dsimp only
  cases prepared : options.prepare env file with
  | error failure => exact ⟨failure, rfl⟩
  | ok found =>
    obtain ⟨config, events⟩ := found
    exact absurd (Options.prepare_eq_ok.mp prepared) refused.not_ready

/-- A text holds one trace at most, and the capacity has no say in the rest of a configuration. -/
theorem Options.Ready.agree {pump verbose : Bool} {env' : Environment} {config config' : Config}
    {events events' : List Event} (ready : options.Ready env file config events)
    (same : ∀ key, key ≠ Config.capacityKey → env' key = env key)
    (ready' : Ready { options with pump, verbose } env' file config' events') :
    events' = events ∧ config'.revision = config.revision ∧
      (verbose = options.verbose → config'.verbose = config.verbose) := by
  obtain ⟨found, valid, rfl⟩ := ready.config
  obtain ⟨found', valid', rfl⟩ := ready'.config
  obtain ⟨text, opened, holds⟩ := ready.trace
  obtain ⟨text', opened', holds'⟩ := ready'.trace
  obtain ⟨revision, traced⟩ := Config.ofEnvironment_congr same valid valid'
  cases opened.symm.trans opened'
  cases (Trace.holds_iff.mp holds).symm.trans (Trace.holds_iff.mp holds')
  refine ⟨rfl, congrArg options.revision.getD revision, ?_⟩
  rintro rfl
  exact congrArg (options.verbose || ·) traced

/-- The program replays a trace that is in order as a whole, and of any other it shows nothing. What it shows then are
the notifications in their order, the adapter and the answer to a command, as far as they are asked for. As long as
the pumps that are asked for are to be had, neither the pump nor the capacity nor tracing makes a difference to that. -/
theorem traces_are_replayed_whole (parsed : Options.ofArguments arguments = .ok options) :
    Faithful supply arguments env file options where
  decided := by
    refine ⟨Options.exists_ready, ?_⟩
    intro found refused
    obtain ⟨config, events, ready⟩ := found
    exact refused.not_ready ready
  refused := by
    intro refused
    obtain ⟨failure, ending⟩ := run_of_refused parsed refused
    rw [ending]
    exact ⟨rfl, rfl⟩
  shown := by
    intro config events ready granted
    rw [run_of_ready parsed ready]
    exact Options.shows_replay events granted
  collapsed := by
    intro config events collapse ready pumped refused
    have ending : Options.replay options supply config events = collapse.ending := by
      rw [Options.replay, if_pos pumped, refused]
    rw [run_of_ready parsed ready, ending]
    exact ⟨collapse.failed, rfl⟩
  agrees := by
    intro pump verbose supply' arguments' env' config events config' events' parsed' same ready granted ready' granted'
    obtain ⟨rfl, revision, traced⟩ := ready.agree same ready'
    obtain ⟨twins, notifications⟩ := replayed_congr revision events'
    have shown := Options.shows_replay events' granted
    have shown' : Shows { options with pump, verbose } _ _ (Options.replay _ supply' config' events') :=
      Options.shows_replay events' granted'
    rw [← notifications] at shown'
    obtain ⟨code, before, after, out, out'⟩ := shown.alike twins shown'
    rw [verbose_replayed] at out out'
    rw [run_of_ready parsed ready, run_of_ready parsed' ready']
    refine ⟨code, ?_, before, after, out, out'⟩
    intro untouched
    rw [out, out', traced untouched]
  stays := by
    intro config events pump ready
    obtain ⟨found, valid, same⟩ := ready.config
    refine ⟨⟨ready.mode, ready.config, ready.trace⟩, .inl rfl, ⟨found, valid, ?_⟩, ready.trace⟩
    rw [same]
    rfl
  flags := Options.ofArguments_long parsed
  lines := Notification.newline_not_mem_line

end Runs

/-- Every queue with fewer places than that is to be had, and no other. -/
def Supply.below (bound : Nat) : Supply := fun places =>
  if places < bound then .ok () else .error ⟨101, "\ncapacity overflow\n", by decide⟩

/-- A path ends. The event goes through a queue for one, and where it is if there is no pump. A queue for all that a
word can count is refused, and the file next to the trace has something else behind the event. -/
theorem traces_are_replayed_whole_through_pump :
    let ended := "\x7b\"event\":\"data_path_terminated\",\"ndp_instance_id\":4\x7d"
    let file (path : String) : Except FileFault String :=
      .ok (if path = "trace" then "[" ++ ended ++ "]" else "[" ++ ended ++ ",4]")
    let env (capacity : String) : Environment := fun key => if key = Config.capacityKey then some capacity else none
    let options : Options := ⟨"trace", none, false, true, false, false, ["get_channel_info"]⟩
    let config (capacity : UInt64) : Config := { Config.default with capacity }
    let events : List Event := [.indication (.dataPathTerminated 4)]
    let supply : Supply := .below (1 <<< 63)
    Options.ofArguments ["--pump", "-t", "trace", "get_channel_info"] = .ok options ∧
      options.Ready (env "1") file (config 1) events ∧ options.Granted supply (config 1) ∧
      Shows options (replayed (config 1) events).1 (replayed (config 1) events).2.notifications
        (run supply ["--pump", "-t", "trace", "get_channel_info"] (env "1") file) ∧
      (run supply ["-t", "trace", "get_channel_info"] (env "9") file).out =
        (run supply ["--pump", "-t", "trace", "get_channel_info"] (env "1") file).out ∧
      (run supply ["--pump", "-t", "trace", "get_channel_info"] (env "18446744073709551615") file).out = "" ∧
      (run supply ["-t", "other"] (env "1") file).out = "" := by
  intro ended file env options config events supply
  have parsed : Options.ofArguments ["--pump", "-t", "trace", "get_channel_info"] = .ok options := by decide +kernel
  have inline : Options.ofArguments ["-t", "trace", "get_channel_info"] =
      .ok { options with pump := false, verbose := false } := by decide +kernel
  have holds : Trace.Holds ("[" ++ ended ++ "]") events := Trace.holds_iff.mpr (by decide +kernel)
  have ready : options.Ready (env "1") file (config 1) events :=
    ⟨.inr ⟨.silent, by decide +kernel⟩, ⟨config 1, by decide +kernel, rfl⟩, _, rfl, holds⟩
  have ready' : Options.Ready { options with pump := false, verbose := false } (env "9") file (config 9) events :=
    ⟨.inr ⟨.silent, by decide +kernel⟩, ⟨config 9, by decide +kernel, rfl⟩, _, rfl, holds⟩
  have vast : options.Ready (env "18446744073709551615") file (config 18446744073709551615) events :=
    ⟨.inr ⟨.silent, by decide +kernel⟩, ⟨config 18446744073709551615, by decide +kernel, rfl⟩, _, rfl, holds⟩
  have other : Options.ofArguments ["-t", "other"] = .ok ⟨"other", none, false, false, false, false, []⟩ := by
    decide +kernel
  have broken : (Trace.ofText ("[" ++ ended ++ ",4]")).isOk = false := by decide +kernel
  have refused : Options.Refused ⟨"other", none, false, false, false, false, []⟩ (env "1") file := by
    have opened : file "other" = .ok ("[" ++ ended ++ ",4]") := rfl
    refine .noTrace opened ?_
    intro events holds
    rw [Trace.holds_iff.mp holds] at broken
    cases broken
  have granted : options.Granted supply (config 1) := fun _ => rfl
  have faithful : Faithful supply _ (env "1") file options := traces_are_replayed_whole parsed
  have shown := faithful.shown ready granted
  have same (key : String) (elsewhere : key ≠ Config.capacityKey) : env "9" key = env "1" key := by
    simp only [env, if_neg elsewhere]
  obtain ⟨-, out, -⟩ := faithful.agrees inline same ready granted ready' fun pumped => by cases pumped
  have beyond : supply (Pump.size (config 18446744073709551615)) =
      .error ⟨101, "\ncapacity overflow\n", by decide⟩ := rfl
  have collapsed := (traces_are_replayed_whole parsed).collapsed vast rfl beyond
  exact ⟨parsed, ready, granted, shown, out rfl, collapsed.2, ((traces_are_replayed_whole other).refused refused).2⟩

/-- Each place of a queue takes an octet at least, and 2^63 of them are never to be had at once. Without the pump nobody
asks for them. -/
theorem queue_beyond_memory_ends_replay :
    let ended := "[\x7b\"event\":\"data_path_terminated\",\"ndp_instance_id\":1\x7d]"
    let line := "\x7b\"notification\":\"data_path_end\",\"ndp_instance_id\":1\x7d\n"
    let env (capacity : String) : Environment := fun key => if key = Config.capacityKey then some capacity else none
    let ending (arguments : List String) (capacity : String) : Ending :=
      run (.below (1 <<< 63)) arguments (env capacity) fun _ => .ok ended
    ending ["-t", "t", "--pump"] "256" = ⟨0, line, ""⟩ ∧
      ending ["-t", "t"] "18446744073709551615" = ⟨0, line, ""⟩ ∧
      (ending ["-t", "t", "--pump"] "18446744073709551615").code = 101 ∧
      (ending ["-t", "t", "--pump"] "18446744073709551615").out = "" := by
  decide +kernel

end Replay

end NanAdapter
