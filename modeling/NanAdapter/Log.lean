/-! What is logged. How it is shown is left to whoever listens. -/

namespace NanAdapter

inductive LogLevel where
  | error
  | warn
  | debug
  deriving DecidableEq, Repr

def LogLevel.name : LogLevel → String
  | .error => "ERROR"
  | .warn => "WARN"
  | .debug => "DEBUG"

structure LogEntry where
  level : LogLevel
  message : String
  fields : List (String × String)
  deriving DecidableEq, Repr

end NanAdapter
