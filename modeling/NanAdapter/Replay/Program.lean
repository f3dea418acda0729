import NanAdapter.Adapter.Diagnostics
import NanAdapter.LogMode
import NanAdapter.Notification.Schema
import NanAdapter.Replay.Basic
import NanAdapter.Replay.Options
import NanAdapter.Replay.Trace

/-! The replay program, as a function of its arguments, its environment, the files that it can read
and the pumps that it can have. It replays a trace and shows the notifications, then the adapter,
then what a diagnostic command prints. -/

namespace NanAdapter.Replay

inductive FileFault where
  | missing
  | denied
  | notDirectory
  | directory
  | tooLong
  | undecodable
  | other (reason : String)
  deriving DecidableEq, Repr

def FileFault.message : FileFault → String
  | .missing => "No such file or directory (os error 2)"
  | .denied => "Permission denied (os error 13)"
  | .notDirectory => "Not a directory (os error 20)"
  | .directory => "Is a directory (os error 21)"
  | .tooLong => "File name too long (os error 36)"
  | .undecodable => "stream did not contain valid UTF-8"
  | .other reason => reason

/-- What keeps the program from replaying a trace. -/
inductive Failure where
  | logMode (cause : LogMode.Unknown)
  | config (cause : ConfigFault)
  | unreadable (path : String) (cause : FileFault)
  | noTrace (path : String) (cause : Trace.Invalid)
  deriving DecidableEq, Repr

namespace Failure

def headline : Failure → String
  | .logMode cause => cause.message
  | .config _ => "Invalid adapter environment"
  | .unreadable path _ => "Failed to read trace " ++ path
  | .noTrace path _ => "Failed to parse trace " ++ path

/-- What led to the failure, nearest cause first. -/
def causes : Failure → List String
  | .logMode _ => []
  | .config (.revision cause) => [ConfigFault.message (.revision cause), cause.message]
  | .config cause => [cause.message]
  | .unreadable _ cause => [cause.message]
  | .noTrace _ cause => [Trace.Invalid.message, cause.reason]

/-- A cause, indented by as many blanks as the lead of its first line is long. -/
def indented (lead : String) (cause : String) : List Char :=
  lead.toList ++ cause.toList.flatMap fun c => if c = '\n' then c :: lead.toList.map fun _ => ' ' else [c]

/-- Several causes are numbered from zero, a single one is not. -/
def causeLines (causes : List String) : List String :=
  let lead (place : Nat) : String :=
    if causes.length = 1 then "    " else "    " ++ Text.decimal place ++ ": "
  causes.mapIdx fun place cause => String.ofList (indented (lead place) cause)

def message (failure : Failure) : String :=
  "Error: " ++ failure.headline ++
    (if failure.causes = [] then "" else "\n\nCaused by:\n" ++ "\n".intercalate (causeLines failure.causes)) ++ "\n"

end Failure

/-- How the program ends, and what it has written. -/
structure Ending where
  code : UInt8
  out : String
  err : String
  deriving DecidableEq, Repr

/-- What puts an end to the program while it sets up a pump. To be ended by a signal counts as the code
that a shell makes of it. -/
structure Collapse where
  code : UInt8
  err : String
  failed : code ≠ 0

/-- Nothing has been replayed by then, so nothing is shown. -/
def Collapse.ending (collapse : Collapse) : Ending := ⟨collapse.code, "", collapse.err⟩

/-- What comes of asking for a pump with so many places in its queue. The program asks for all of them
at once, before it sends anything, and whether they are to be had is not up to it. -/
abbrev Supply := Nat → Except Collapse Unit

/-- The configuration of the environment, unless the options say otherwise. -/
def Options.config (options : Options) (env : Environment) : Except ConfigFault Config := do
  let config ← Config.ofEnvironment env
  return { config with
    revision := options.revision.getD config.revision
    verbose := options.verbose || config.verbose }

/-- Everything that is needed before the first event is dispatched. -/
def Options.prepare (options : Options) (env : Environment) (file : String → Except FileFault String) :
    Except Failure (Config × List Event) := do
  if ¬ options.verbose then
    let _ ← (LogMode.ofEnvironment env).mapError .logMode
  let config ← (options.config env).mapError .config
  let text ← (file options.trace).mapError (.unreadable options.trace)
  let events ← (Trace.ofText text).mapError (.noTrace options.trace)
  return (config, events)

/-- What the notifications and the adapter itself look like, as far as the options ask for them. -/
def Options.report (options : Options) (done : Replayed) : String :=
  let lines := if options.quiet then [] else done.journal.notifications.map fun n => n.line ++ "\n"
  let dump := if options.dump then done.adapter.dump else []
  String.join (lines ++ dump)

/-- Shows what a replay led to and takes the words for a diagnostic command. One that fails is answered
with help. -/
def Options.conclude (options : Options) (done : Replayed) : Ending :=
  let shown := options.report done
  if options.words = [] then ⟨0, shown, ""⟩
  else
    let (result, _, _) := done.adapter.onCommand options.words .unlimited .unlimited
    let out := shown ++ result.out.text
    if result.code = 0 then ⟨0, out, result.err.text⟩
    else ⟨1, out, result.err.text ++ Command.group ++ " commands:\n" ++ String.join Command.help⟩

/-- Replays the events, through a pump if one is asked for. Where that one is not to be had, none of them is. -/
def Options.replay (options : Options) (supply : Supply) (config : Config) (events : List Event) : Ending :=
  let adapter := Adapter.new config .nowhere
  if options.pump then
    match supply (Pump.size config) with
    | .ok () => options.conclude (adapter.replayPumped config events)
    | .error collapse => collapse.ending
  else options.conclude (adapter.replay events)

def versionLine : String := "aware-replay 0.1.0\n"

/-- A flag with its letter, in a column of that width. -/
def helpLine (flag : Flag) (width : Nat) (note : String) : String :=
  let letter := match flag.letter? with
    | some c => Text.Emphasis.literal.on (String.ofList ['-', c]) ++ ", "
    | none => "    "
  let gap := String.ofList (List.replicate (width - flag.text.length) ' ')
  "  " ++ letter ++ flag.usage ++ gap ++ note ++ "\n"

def help : String :=
  let lines := [(Flag.trace, "JSON file holding an array of HAL events"),
    (.revision, "Negotiated HAL revision (overrides AWARE_HAL_REVISION)"),
    (.verbose, "Trace every callback and enable debug logging"),
    (.pump, "Deliver events through the background pump thread"),
    (.quiet, "Do not print forwarded notifications"), (.dump, "Print the adapter dump after replay"),
    (.help, "Print help"), (.version, "Print version")]
  "Replay Wi-Fi Aware HAL callback traces through the adapter\n\n" ++ UsageFault.usage ++ "\n\n" ++
    Text.Emphasis.heading.on "Arguments:" ++
    "\n  [COMMAND]...  native_cb command to run after replay, e.g. `get_cb_count --reset`\n\n" ++
    Text.Emphasis.heading.on "Options:" ++ "\n" ++
    String.join (lines.map fun (flag, note) => helpLine flag 23 note)

/-- Asks for emphasis, even where nothing would be made of it. -/
def emphasisKey : String := "CLICOLOR_FORCE"

/-- Objects to emphasis. -/
def plainKey : String := "NO_COLOR"

/-- Whether messages keep their emphasis. A variable that is empty counts as unset. -/
def emphasized (env : Environment) : Bool :=
  let given (key : String) : Bool := (env key).getD "" ≠ ""
  given emphasisKey && !given plainKey

def run (supply : Supply) (arguments : List String) (env : Environment)
    (file : String → Except FileFault String) : Ending :=
  let rendered := Text.rendered (emphasized env)
  match Options.ofArguments arguments with
  | .error .help => ⟨0, rendered help, ""⟩
  | .error .version => ⟨0, versionLine, ""⟩
  | .error (.fault cause) => ⟨2, "", rendered cause.message⟩
  | .ok options => match options.prepare env file with
    | .error failure => ⟨1, "", failure.message⟩
    | .ok (config, events) => options.replay supply config events

end NanAdapter.Replay
