import NanAdapter.Text.Decimal
import NanAdapter.Text.Shown

/-! Emphasis inside a message. It is part of the text, as control sequences, and a reader who cannot
make use of it is shown the text without them. -/

namespace NanAdapter.Text

/-- What a part of a message is, if it stands out. -/
inductive Emphasis where
  /-- The announcement of a fault. -/
  | alarm
  /-- The title of a section. -/
  | heading
  /-- What is typed as it stands. -/
  | literal
  /-- What is missing. -/
  | wanted
  /-- What should not be there. -/
  | unwanted
  deriving DecidableEq, Repr

/-- Changes how text is displayed from here on. -/
private def display (code : Nat) : String := "\x1b[" ++ decimal code ++ "m"

namespace Emphasis

/-- Bold is 1, underlined 4; red, green and yellow are 31 to 33. -/
def codes : Emphasis → List Nat
  | .alarm => [1, 31]
  | .heading => [1, 4]
  | .literal => [1]
  | .wanted => [32]
  | .unwanted => [33]

/-- The text with its emphasis, which ends behind it. -/
def on (emphasis : Emphasis) (text : String) : String :=
  String.join (emphasis.codes.map display) ++ text ++ display 0

end Emphasis

/-- A message as its reader gets it. -/
def rendered (emphasized : Bool) (message : String) : String :=
  if emphasized then message else shown true message

end NanAdapter.Text
