import NanAdapter.Arguments
import NanAdapter.Revision
import NanAdapter.Text.Emphasis

/-! The arguments of the replay program: options first, then the words of a diagnostic command. An
option that waits for its value takes the next argument that is no option; without one that waits,
such an argument begins the words. -/

namespace NanAdapter.Replay

inductive Flag where
  | trace
  | revision
  | verbose
  | pump
  | quiet
  | dump
  | help
  | version
  deriving DecidableEq, Repr

namespace Flag

def all : List Flag := [.trace, .revision, .verbose, .pump, .quiet, .dump, .help, .version]

def name : Flag → String
  | .trace => "trace"
  | .revision => "revision"
  | .verbose => "verbose"
  | .pump => "pump"
  | .quiet => "quiet"
  | .dump => "dump"
  | .help => "help"
  | .version => "version"

def letter? : Flag → Option Char
  | .trace => some 't'
  | .revision => some 'r'
  | .verbose => some 'v'
  | .help => some 'h'
  | .version => some 'V'
  | .pump | .quiet | .dump => none

/-- What the value is called, of the flags that have one. -/
def value? : Flag → Option String
  | .trace => some "TRACE"
  | .revision => some "REVISION"
  | _ => none

def ofName? (text : String) : Option Flag := all.find? fun flag => flag.name = text

def ofLetter? (c : Char) : Option Flag := all.find? fun flag => flag.letter? = some c

/-- What a flag is typed as. -/
def long (flag : Flag) : String := "--" ++ flag.name

/-- What follows it, with a blank before. -/
def operand (flag : Flag) : String :=
  match flag.value? with
  | some value => " <" ++ value ++ ">"
  | none => ""

def text (flag : Flag) : String := flag.long ++ flag.operand

/-- The flag inside a usage. -/
def usage (flag : Flag) : String := Text.Emphasis.literal.on flag.long ++ flag.operand

end Flag

inductive UsageFault where
  | missingValue (flag : Flag)
  | repeated (flag : Flag)
  | revision (cause : Revision.Unknown)
  /-- A value for a flag that has none, after some flags were given. -/
  | needlessValue (flag : Flag) (value : String) (given : List Flag)
  /-- Nothing to replay. Flags were given, and perhaps words. -/
  | missingTrace (given : List Flag) (words : Bool)
  deriving DecidableEq, Repr

namespace UsageFault

def summary : UsageFault → String
  | .missingValue flag =>
    "a value is required for '" ++ Text.Emphasis.unwanted.on flag.text ++ "' but none was supplied"
  | .repeated flag => Argument.repeatedText (Text.Emphasis.unwanted.on flag.text)
  | .revision cause =>
    "invalid value '" ++ Text.Emphasis.unwanted.on cause.text ++ "' for '" ++
      Text.Emphasis.literal.on Flag.revision.text ++ "': " ++ cause.message
  | .needlessValue flag value _ =>
    Argument.needlessValueText (Text.Emphasis.literal.on flag.text) (Text.Emphasis.unwanted.on value)
  | .missingTrace _ _ =>
    "the following required arguments were not provided:\n  " ++ Text.Emphasis.wanted.on Flag.trace.text

def usageOf (parts : List String) : String :=
  Text.Emphasis.heading.on "Usage:" ++ " " ++ " ".intercalate (Text.Emphasis.literal.on "aware-replay" :: parts)

def usage : String := usageOf ["[OPTIONS]", Flag.trace.usage, "[COMMAND]..."]

/-- Any of the flags that say how to replay, or words. -/
def anyOf : String :=
  let flags : List Flag := [.trace, .revision, .verbose, .pump, .quiet, .dump]
  "<" ++ "|".intercalate (flags.map Flag.text ++ ["COMMAND"]) ++ ">"

/-- The usage that a fault calls for, cut down to what is of interest. Faults in values call for
none. -/
def usage? : UsageFault → Option String
  | .missingValue _ | .revision _ => none
  | .repeated _ => some usage
  | .needlessValue flag _ given =>
    let further := if flag = .help ∨ flag = .version then [flag.usage] else []
    some <| usageOf <|
      if given = [] then [Flag.trace.usage, flag.usage, "[COMMAND]..."] else further ++ [anyOf]
  | .missingTrace given words =>
    some <| usageOf <|
      Flag.trace.usage :: given.map Flag.usage ++ [if words then "<COMMAND>..." else "[COMMAND]..."]

/-- The whole message, with its emphasis. -/
def message (fault : UsageFault) : String :=
  Text.Emphasis.alarm.on "error:" ++ " " ++ fault.summary ++ "\n\n" ++
    (match fault.usage? with
      | some usage => usage ++ "\n\n"
      | none => "") ++
    "For more information, try '" ++ Text.Emphasis.literal.on "--help" ++ "'.\n"

end UsageFault

/-- Why the arguments are not read to their end. -/
inductive Stop where
  | fault (cause : UsageFault)
  | help
  | version
  deriving DecidableEq, Repr

/-- What the program is asked to do. -/
structure Options where
  trace : String
  revision : Option Revision
  verbose : Bool
  pump : Bool
  quiet : Bool
  dump : Bool
  /-- The diagnostic command, if there are any words. -/
  words : List String
  deriving DecidableEq, Repr

/-- What has been read so far. -/
structure Reading where
  /-- In the order in which they were given. -/
  given : List Flag
  trace? : Option String
  revision? : Option Revision
  /-- A flag that waits for its value, or whose value has not been looked at yet. -/
  pending : Option (Flag × Option String)

namespace Reading

def start : Reading := ⟨[], none, none, none⟩

/-- Notes that a flag was given, which may happen only once. -/
def note (s : Reading) (flag : Flag) : Except UsageFault Reading :=
  if flag ∈ s.given then .error (.repeated flag) else .ok { s with given := s.given ++ [flag] }

/-- Looks at the value of a flag. -/
def assign (s : Reading) (flag : Flag) (value : String) : Except UsageFault Reading := do
  let s ← s.note flag
  match flag with
  | .trace => if value = "" then throw (.missingValue flag) else return { s with trace? := some value }
  | .revision =>
    let revision ← (Revision.ofText value).mapError .revision
    return { s with revision? := some revision }
  | _ => return s

/-- Looks at what is pending. -/
def settle (s : Reading) : Except UsageFault Reading :=
  match s.pending with
  | none => .ok s
  | some (flag, none) => .error (.missingValue flag)
  | some (flag, some value) => { s with pending := none }.assign flag value

/-- The flag that waits for its value. -/
def waiting? (s : Reading) : Option Flag :=
  match s.pending with
  | some (flag, none) => some flag
  | _ => none

/-- Takes a flag that has no value. -/
def raise (s : Reading) (flag : Flag) : Except Stop Reading := do
  let s ← s.settle.mapError .fault
  match flag with
  | .help => throw .help
  | .version => throw .version
  | _ => (s.note flag).mapError .fault

/-- Takes a flag whose value is attached or still to come. -/
def accept (s : Reading) (flag : Flag) (value : Option String) : Except Stop Reading :=
  .mapError .fault do
    let s ← s.settle
    match value with
    | some value => s.assign flag value
    | none => return { s with pending := some (flag, none) }

def long (s : Reading) (flag : Flag) (value : Option String) : Except Stop Reading :=
  match flag.value?, value with
  | some _, value => s.accept flag value
  | none, some value => .error (.fault (.needlessValue flag value s.given))
  | none, none => s.raise flag

/-- Takes the flags of a cluster of letters, up to one with a value, which is the rest of the
cluster. -/
def cluster : Reading → List Char → Except Stop Reading
  | s, [] => .ok s
  | s, c :: rest => match Flag.ofLetter? c with
    | none => .ok s
    | some flag =>
      if flag.value?.isSome then s.accept flag (if rest = [] then none else some (String.ofList rest))
      else do (← s.raise flag).cluster rest

/-- Takes an argument, unless the words begin with it. -/
def take? (s : Reading) (argument : String) : Except Stop (Option Reading) :=
  let plain : Option Reading := s.waiting?.map fun flag => { s with pending := some (flag, some argument) }
  match Argument.of argument with
  | .long name value => match Flag.ofName? name with
    | some flag => (s.long flag value).map some
    | none => .ok plain
  | .short first rest =>
    if (first :: rest).all fun c => (Flag.ofLetter? c).isSome then (s.cluster (first :: rest)).map some
    else .ok plain
  | .word | .separator => .ok plain

/-- Reads the options, and leaves the words. -/
def read (s : Reading) : List String → Except Stop (Reading × List String)
  | [] => .ok (s, [])
  | argument :: rest =>
    if Argument.of argument = .separator then .ok (s, rest)
    else do
      match ← s.take? argument with
      | some s => s.read rest
      | none => return (s, argument :: rest)

/-- The options as they are at the end of the arguments. -/
def finish (s : Reading) (words : List String) : Except UsageFault Options := do
  let s ← s.settle
  let on (flag : Flag) : Bool := flag ∈ s.given
  match s.trace? with
  | some trace => return ⟨trace, s.revision?, on .verbose, on .pump, on .quiet, on .dump, words⟩
  | none => throw (.missingTrace s.given (words ≠ []))

end Reading

def Options.ofArguments (arguments : List String) : Except Stop Options := do
  let (reading, words) ← Reading.start.read arguments
  (reading.finish words).mapError .fault

end NanAdapter.Replay
