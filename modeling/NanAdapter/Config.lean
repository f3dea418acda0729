import NanAdapter.Adapter.Basic
import NanAdapter.Schema.Read

/-! The configuration of an adapter, and the environment variables that it can be read from. -/

namespace NanAdapter

structure Config where
  revision : Revision
  verbose : Bool
  /-- How many events may wait between the HAL and the adapter. -/
  capacity : UInt64
  deriving DecidableEq, Repr

/-- The values of the variables that are set. -/
abbrev Environment := String → Option String

inductive ConfigFault where
  | revision (cause : Revision.Unknown)
  | setting (key text : String)
  | noCapacity
  deriving DecidableEq, Repr

def ConfigFault.message : ConfigFault → String
  | .revision cause => "Invalid HAL revision: " ++ cause.message
  | .setting key text => "Invalid value for " ++ key ++ ": '" ++ text ++ "'"
  | .noCapacity => "Invalid configuration: Event queue capacity must be greater than 0"

namespace Config

def default : Config := ⟨.v1_0, false, 256⟩

/-- For the newest HAL. -/
def latest : Config := { default with revision := .v1_6 }

def validate (c : Config) : Except ConfigFault Unit :=
  if c.capacity = 0 then .error .noCapacity else .ok ()

def schema : Schema Config :=
  .record "AdapterConfig"
    (.may "revision" Revision.schema .v1_0 <|
      .may "verbose_logging" .boolean false <|
      .may "event_queue_capacity" .usize 256 .done)
    ⟨fun (revision, verbose, capacity, ()) => ⟨revision, verbose, capacity⟩,
     fun c => (c.revision, c.verbose, c.capacity, ())⟩

def revisionKey : String := "AWARE_HAL_REVISION"

def verboseKey : String := "AWARE_VERBOSE"

def capacityKey : String := "AWARE_EVENT_QUEUE_CAPACITY"

/-- A switch, in either case and with blanks around it. Nothing means off. -/
def switch? (text : String) : Option Bool :=
  let word := Text.folded text
  if word ∈ ["1", "true", "yes", "on"] then some true
  else if word ∈ ["0", "false", "no", "off", ""] then some false
  else none

def capacity? (text : String) : Option UInt64 :=
  match Text.unsigned? (Text.trim text.toList) with
  | some n => if n < UInt64.size then some (.ofNat n) else none
  | none => none

/-- The value of a variable if it is set, and otherwise the one that was there before. -/
private def valueOf (env : Environment) (key : String) (before : α) (read : String → Except ConfigFault α) :
    Except ConfigFault α :=
  match env key with
  | none => .ok before
  | some text => read text

/-- Variables that are not set leave the default. The first variable that makes no sense is blamed.
-/
def ofEnvironment (env : Environment) : Except ConfigFault Config := do
  let revision ← valueOf env revisionKey default.revision fun text =>
    (Revision.ofText text).mapError .revision
  let verbose ← valueOf env verboseKey default.verbose fun text =>
    (switch? text).elim (.error (.setting verboseKey text)) .ok
  let capacity ← valueOf env capacityKey default.capacity fun text =>
    (capacity? text).elim (.error (.setting capacityKey text)) .ok
  let config : Config := ⟨revision, verbose, capacity⟩
  config.validate
  return config

private theorem valueOf_congr {env other : Environment} {key : String} (same : other key = env key) (before : α)
    (read : String → Except ConfigFault α) : valueOf other key before read = valueOf env key before read := by
  rw [valueOf, valueOf, same]

/-- The capacity decides nothing but whether there is a configuration, and what its capacity is. -/
theorem ofEnvironment_congr {env other : Environment} (same : ∀ key, key ≠ capacityKey → other key = env key)
    {found found' : Config} (valid : ofEnvironment env = .ok found) (valid' : ofEnvironment other = .ok found') :
    found'.revision = found.revision ∧ found'.verbose = found.verbose := by
  have settled {revision : Revision} {verbose : Bool} {capacity : UInt64} {config : Config}
      (valid : (do validate ⟨revision, verbose, capacity⟩; return ⟨revision, verbose, capacity⟩) = Except.ok config) :
      config.revision = revision ∧ config.verbose = verbose := by
    cases checked : validate ⟨revision, verbose, capacity⟩ with
    | error fault =>
      rw [checked] at valid
      cases valid
    | ok _ =>
      rw [checked] at valid
      cases valid
      exact ⟨rfl, rfl⟩
  unfold ofEnvironment at valid valid'
  rw [valueOf_congr (same revisionKey (by decide)), valueOf_congr (same verboseKey (by decide))] at valid'
  generalize valueOf env revisionKey _ _ = revision at valid valid'
  generalize valueOf env verboseKey _ _ = verbose at valid valid'
  generalize valueOf env capacityKey _ _ = capacity at valid
  generalize valueOf other capacityKey _ _ = capacity' at valid'
  cases revision with
  | error fault => cases valid
  | ok revision =>
    cases verbose with
    | error fault => cases valid
    | ok verbose =>
      cases capacity with
      | error fault => cases valid
      | ok capacity =>
        cases capacity' with
        | error fault => cases valid'
        | ok capacity' =>
          obtain ⟨revision, verbose⟩ := settled valid
          obtain ⟨revision', verbose'⟩ := settled valid'
          exact ⟨revision'.trans revision.symm, verbose'.trans verbose.symm⟩

end Config

/-- An adapter that has seen nothing yet. -/
def Adapter.new (config : Config) (sink : AnomalySink) : Adapter :=
  ⟨.ofRevision config.revision, config.verbose, sink, .empty, .empty⟩

end NanAdapter
