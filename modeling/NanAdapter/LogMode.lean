import NanAdapter.Config

/-! How much is logged, and in which form. -/

namespace NanAdapter

inductive LogMode where
  | silent
  | development
  | debug
  | json
  deriving DecidableEq, Repr

namespace LogMode

def key : String := "AWARE_LOG_MODE"

def ofText? (text : String) : Option LogMode :=
  match Text.folded text with
  | "silent" => some .silent
  | "development" | "dev" => some .development
  | "debug" => some .debug
  | "json" => some .json
  | _ => none

/-- A mode that there is not. -/
structure Unknown where
  text : String
  deriving DecidableEq, Repr

def Unknown.message (e : Unknown) : String := "Invalid environment variable: " ++ key ++ "=" ++ e.text

/-- Nothing is logged unless the environment says otherwise. -/
def ofEnvironment (env : Environment) : Except Unknown LogMode :=
  match env key with
  | none => .ok .silent
  | some text => (ofText? text).elim (.error ⟨text⟩) .ok

/-- Any other mode has to be installed in the process. -/
def listens (mode : LogMode) : Bool := mode ≠ .silent

end LogMode

end NanAdapter
