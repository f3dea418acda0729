import NanAdapter.Arguments
import NanAdapter.Diagnostics.Output
import NanAdapter.Text.Line
import NanAdapter.Text.Shown

/-! The diagnostic commands and the faults of whoever types them. -/

namespace NanAdapter

inductive Command where
  | counts (reset : Bool)
  | channels
  deriving DecidableEq, Repr

/-- What is wrong with the options of a command. -/
inductive OptionFault where
  | unexpected (argument : String)
  | repeatedReset
  | valueOfReset (value : String)
  deriving DecidableEq, Repr

def OptionFault.message : OptionFault → String
  | .unexpected argument => "unexpected argument '" ++ Text.shown false argument ++ "' found"
  | .repeatedReset => Argument.repeatedText "--reset"
  | .valueOfReset value => Argument.needlessValueText "--reset" (Text.shown false value)

inductive CommandFault where
  | missing
  | unknown (name : String)
  | options (name : String) (fault : OptionFault)
  | unwritable
  deriving DecidableEq, Repr

/-- Of the message about an option only the first line is kept. -/
def CommandFault.message : CommandFault → String
  | .missing => "Missing 'native_cb' command"
  | .unknown name => "Unknown 'native_cb' command '" ++ name ++ "'"
  | .options name fault => "Unknown option to '" ++ name ++ "': " ++ Text.firstLine fault.message
  | .unwritable => "Failed to write diagnostic output: " ++ Output.fault

namespace Command

/-- The group that the commands belong to. -/
def group : String := "native_cb"

def countsName : String := "get_cb_count"

def channelsName : String := "get_channel_info"

/-- Reads the options of a command, which are none but `--reset`, and that one only if it is
allowed. -/
def options (resettable : Bool) : (reset : Bool) → List String → Except OptionFault Bool
  | reset, [] => .ok reset
  | reset, argument :: rest =>
    match Argument.of argument with
    | .separator => match rest with
      | [] => .ok reset
      | next :: _ => .error (.unexpected next)
    | .long name value =>
      if resettable ∧ name = "reset" then
        match value with
        | some value => .error (.valueOfReset value)
        | none => if reset then .error .repeatedReset else options resettable true rest
      else .error (.unexpected ("--" ++ name))
    | .short first _ => .error (.unexpected (String.ofList ['-', first]))
    | .word => .error (.unexpected argument)

def ofArguments : List String → Except CommandFault Command
  | [] => .error .missing
  | name :: rest =>
    if name = countsName then
      match options true false rest with
      | .ok reset => .ok (.counts reset)
      | .error fault => .error (.options name fault)
    else if name = channelsName then
      match options false false rest with
      | .ok _ => .ok .channels
      | .error fault => .error (.options name fault)
    else .error (.unknown name)

def help : List String :=
  ["  get_cb_count [--reset]: gets the number of callbacks (and optionally reset count)\n",
    "  get_channel_info: prints out existing NDP channel info\n"]

end Command

end NanAdapter
