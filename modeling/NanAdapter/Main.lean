import NanAdapter.Replay.Program

/-! The replay program in its process. -/

namespace NanAdapter.Replay

/-- A file that cannot be opened is named in the error, and one that was opened is not. Numbers of
errors are negative. -/
def FileFault.ofError : IO.Error → FileFault
  | .noFileOrDirectory .. => .missing
  | .permissionDenied .. => .denied
  | .inappropriateType (some _) .. => .notDirectory
  | .inappropriateType none .. => .directory
  | .userError _ => .undecodable
  | fault@(.invalidArgument _ code _) => if code = -36 then .tooLong else .other (toString fault)
  | fault => .other (toString fault)

/-- The values of the variables that anything depends on. -/
def environment : IO Environment := do
  let keys :=
    [Config.revisionKey, Config.verboseKey, Config.capacityKey, LogMode.key, emphasisKey, plainKey]
  let values ← keys.mapM fun key => (IO.getEnv key : IO (Option String))
  return fun key => ((keys.zip values).find? fun entry => entry.1 = key).bind (·.2)

/-- A queue that grows with what waits in it asks for no places beforehand. -/
def everyPump : Supply := fun _ => .ok ()

def readTrace (path : String) : IO (Except FileFault String) :=
  (Except.ok <$> IO.FS.readFile path).catchExceptions fun fault => return .error (.ofError fault)

end NanAdapter.Replay

open NanAdapter Replay

def main (arguments : List String) : IO UInt32 := do
  let env ← environment
  let trace ← match Options.ofArguments arguments with
    | .ok options => readTrace options.trace
    | .error _ => pure (.error .missing)
  let ending := run everyPump arguments env fun _ => trace
  IO.print ending.out
  IO.eprint ending.err
  return ending.code.toUInt32
