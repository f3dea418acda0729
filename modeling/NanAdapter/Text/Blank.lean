/-! White space as Unicode has it (the property White_Space, twenty-five characters), and trimming
by it. -/

namespace NanAdapter.Text

/-- The code points of white space, in ranges. -/
def blankRanges : List (Nat × Nat) :=
  [(0x09, 0x0D), (0x20, 0x20), (0x85, 0x85), (0xA0, 0xA0), (0x1680, 0x1680), (0x2000, 0x200A),
    (0x2028, 0x2029), (0x202F, 0x202F), (0x205F, 0x205F), (0x3000, 0x3000)]

def isBlank (c : Char) : Bool :=
  blankRanges.any fun (first, last) => first ≤ c.toNat && c.toNat ≤ last

/-- The text without the white space at its two ends. -/
def trim (cs : List Char) : List Char :=
  ((cs.dropWhile isBlank).reverse.dropWhile isBlank).reverse

/-- A text without the blanks around it, its letters from A to Z in lower case. -/
def folded (text : String) : String := String.ofList ((trim text.toList).map Char.toLower)

end NanAdapter.Text
