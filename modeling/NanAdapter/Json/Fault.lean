import NanAdapter.Json.Binary64
import NanAdapter.Text.Place
import NanAdapter.Text.Quoted

/-! Why a value cannot be read. Either its text is broken, or the text is sound and the value is not
of the type that was wanted; a text is blamed for the first fault that a reader meets. -/

namespace NanAdapter

/-- What is wrong with a broken text. -/
inductive Breach where
  | endInArray
  | endInObject
  | endInString
  | endInValue
  | noColon
  | noCommaInArray
  | noCommaInObject
  | commaAtEnd
  | noValue
  | noName
  | wrongWord
  | badNumber
  | hugeNumber
  | badEscape
  | control
  /-- Half of a pair of units stands alone. -/
  | loneHalf
  /-- The first half of a pair has no unit after it. -/
  | openPair
  | tooDeep
  /-- Something follows where nothing should. -/
  | surplus
  deriving DecidableEq, Repr

namespace Breach

/-- The text ends too early. -/
def isEnd : Breach → Bool
  | .endInArray | .endInObject | .endInString | .endInValue => true
  | _ => false

def message : Breach → String
  | .endInArray => "EOF while parsing a list"
  | .endInObject => "EOF while parsing an object"
  | .endInString => "EOF while parsing a string"
  | .endInValue => "EOF while parsing a value"
  | .noColon => "expected `:`"
  | .noCommaInArray => "expected `,` or `]`"
  | .noCommaInObject => "expected `,` or `\x7d`"
  | .commaAtEnd => "trailing comma"
  | .noValue => "expected value"
  | .noName => "key must be a string"
  | .wrongWord => "expected ident"
  | .badNumber => "invalid number"
  | .hugeNumber => "number out of range"
  | .badEscape => "invalid escape"
  | .control => "control character (\\u0000-\\u001F) found while parsing a string"
  | .loneHalf => "lone leading surrogate in hex escape"
  | .openPair => "unexpected end of hex escape"
  | .tooDeep => "recursion limit exceeded"
  | .surplus => "trailing characters"

end Breach

/-- A breach and how many octets of the text are left where it shows. -/
structure Break where
  breach : Breach
  left : Nat
  deriving DecidableEq, Repr

namespace Break

/-- Shows before the rest of a text. -/
def before (rest : List Char) (breach : Breach) : Break := ⟨breach, Text.octets rest⟩

/-- Shows with the next octet of a text. -/
def within (rest : List Char) (breach : Breach) : Break := ⟨breach, Text.octets rest - 1⟩

end Break

/-- What a value shows itself to be. -/
inductive Glimpse where
  | null
  | boolean (value : Bool)
  | integer (value : Int)
  | real (value : Binary64)
  | text (value : String)
  | sequence
  | map
  deriving DecidableEq, Repr

private def ticked (text : String) : String := "`" ++ text ++ "`"

def Glimpse.phrase : Glimpse → String
  | .null => "null"
  | .boolean value => "boolean " ++ ticked (if value then "true" else "false")
  | .integer value => "integer " ++ ticked (String.ofList (Text.integer value))
  | .real value => "floating point " ++ ticked (String.ofList value.text)
  | .text value => "string " ++ Text.quoted value
  | .sequence => "sequence"
  | .map => "map"

inductive Refusal where
  | missing (member : String)
  | unknown (name : String) (expected : List String)
  | outOfRange (value : Int) (wanted : String)
  | mistyped (found : Glimpse) (wanted : String)
  | repeated (member : String)
  /-- So many elements, or the one of that index is missing. -/
  | wrongLength (count : Nat) (wanted : String)
  | notOneMember
  deriving DecidableEq, Repr

namespace Refusal

def oneOf : List String → String
  | [] => "nothing"
  | [one] => ticked one
  | [one, other] => ticked one ++ " or " ++ ticked other
  | names => "one of " ++ ", ".intercalate (names.map ticked)

/-- Counts things of a kind. -/
def counted (count : Nat) (kind : String) : String :=
  Text.decimal count ++ " " ++ kind ++ if count = 1 then "" else "s"

def message : Refusal → String
  | .missing member => "missing field " ++ ticked member
  | .unknown name expected => "unknown variant " ++ ticked name ++ ", expected " ++ oneOf expected
  | .outOfRange value wanted => "invalid value: " ++ (Glimpse.integer value).phrase ++ ", expected " ++ wanted
  | .mistyped found wanted => "invalid type: " ++ found.phrase ++ ", expected " ++ wanted
  | .repeated member => "duplicate field " ++ ticked member
  | .wrongLength count wanted => "invalid length " ++ Text.decimal count ++ ", expected " ++ wanted
  | .notOneMember => "invalid value: " ++ Glimpse.map.phrase ++ ", expected map with a single key"

end Refusal

inductive Fault where
  /-- So many octets of the text are left where it shows, if that is known. -/
  | broken (breach : Breach) (left : Option Nat)
  | refused (cause : Refusal)
  deriving DecidableEq, Repr

def Break.fault (b : Break) : Fault := .broken b.breach b.left

namespace Fault

def category : Fault → String
  | .broken breach _ => if breach.isEnd then "eof" else "syntax"
  | .refused _ => "data"

def message : Fault → String
  | .broken breach _ => breach.message
  | .refused cause => cause.message

end Fault

end NanAdapter
