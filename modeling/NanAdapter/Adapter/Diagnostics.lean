import NanAdapter.Adapter.Basic
import NanAdapter.Diagnostics.Command
import NanAdapter.Json.Print

/-! The adapter answers diagnostic commands and describes itself. -/

namespace NanAdapter

namespace Adapter

/-- The text that a command asks for, and the adapter after it was taken. -/
def answer (a : Adapter) : Command → String × Adapter
  | .counts reset => (a.counters.toJson.text, if reset then { a with counters := .empty } else a)
  | .channels => (a.channels.toJson.text, a)

/-- Counters are taken before anything is written. -/
def execute (a : Adapter) (command : Command) (out : Output) : Except CommandFault Unit × Adapter × Output :=
  let (text, a) := a.answer command
  let (out, complete) := out.write (text ++ "\n")
  (if complete then .ok () else .error .unwritable, a, out)

structure CommandResult where
  code : Int
  out : Output
  err : Output

/-- Reads a command and executes it. A fault is written to the second output, as far as that takes
it. -/
def onCommand (a : Adapter) (arguments : List String) (out err : Output) : CommandResult × Adapter × Journal :=
  let (result, a, out) := match Command.ofArguments arguments with
    | .ok command => a.execute command out
    | .error fault => (.error fault, a, out)
  match result with
  | .ok () => (⟨0, out, err⟩, a, .empty)
  | .error fault =>
    (⟨-1, out, (err.write (fault.message ++ "\n")).1⟩, a,
      .ofLog ⟨.debug, "native_cb command failed", [("error", fault.message)]⟩)

/-- The lines of the description, each with its end. -/
def dump (a : Adapter) : List String :=
  ["AwareEventAdapter:\n",
    "  revision: " ++ a.revision.text ++ "\n",
    "  verbose: " ++ (if a.verbose then "true" else "false") ++ "\n",
    "  callback counts: " ++ a.counters.toJson.text ++ "\n",
    "  channel info: " ++ a.channels.toJson.text ++ "\n"]

end Adapter

end NanAdapter
