import NanAdapter.Text.Decimal

/-! Places in a text, by line and column. Columns are counted in octets, and a place may lie inside
a character. -/

namespace NanAdapter.Text

/-- How many octets characters take. -/
def octets : List Char → Nat
  | [] => 0
  | c :: rest => c.utf8Size + octets rest

/-- Lines are counted from one, columns from zero. -/
structure Place where
  line : Nat
  column : Nat
  deriving DecidableEq, Repr

namespace Place

def start : Place := ⟨1, 0⟩

/-- The place after a character. -/
def step (p : Place) (c : Char) : Place :=
  if c = '\n' then ⟨p.line + 1, 0⟩ else { p with column := p.column + c.utf8Size }

/-- The place so many octets further. -/
def advance (p : Place) : (count : Nat) → List Char → Place
  | _, [] => p
  | count, c :: rest =>
    if count < c.utf8Size then { p with column := p.column + count }
    else (p.step c).advance (count - c.utf8Size) rest

/-- The place in a text where so many octets are left. -/
def before (left : Nat) (cs : List Char) : Place := start.advance (octets cs - left) cs

def text (p : Place) : String := "line " ++ decimal p.line ++ " column " ++ decimal p.column

end Place

end NanAdapter.Text
