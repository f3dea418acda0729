import NanAdapter.Json.Document

/-! Strings in a text. Escapes give UTF-16 units, and units that are halves of a pair must stand in
pairs; a text can be followed past a string where they do not. -/

namespace NanAdapter.Json

def hexValue? (c : Char) : Option Nat :=
  if c.isDigit then some (c.toNat - '0'.toNat)
  else if 'a' ≤ c ∧ c ≤ 'f' then some (c.toNat - 'a'.toNat + 10)
  else if 'A' ≤ c ∧ c ≤ 'F' then some (c.toNat - 'A'.toNat + 10)
  else none

def hexValue (a b c d : Char) : Option Nat := do
  let a ← hexValue? a
  let b ← hexValue? b
  let c ← hexValue? c
  let d ← hexValue? d
  return 4096 * a + 256 * b + 16 * c + d

/-- What is wrong where four hexadecimal digits should stand. Four octets are looked at. -/
def noUnit (cs : List Char) : Break :=
  if Text.octets cs < 4 then .before [] .endInString else ⟨.badEscape, Text.octets cs - 4⟩

def simpleEscape? : Char → Option Char
  | '"' => some '"'
  | '\\' => some '\\'
  | '/' => some '/'
  | 'b' => some '\x08'
  | 'f' => some '\x0c'
  | 'n' => some '\n'
  | 'r' => some '\r'
  | 't' => some '\t'
  | _ => none

def isFirstHalf (unit : Nat) : Bool := 0xD800 ≤ unit && unit < 0xDC00

def isSecondHalf (unit : Nat) : Bool := 0xDC00 ≤ unit && unit < 0xE000

/-- The character of a pair of halves. -/
def paired (first second : Nat) : Char := Char.ofNat (0x10000 + (first - 0xD800) * 0x400 + (second - 0xDC00))

/-- What remains after a string that starts after a quotation mark. Nobody wants its characters. -/
def skipString : List Char → Except Break (List Char)
  | [] => .error (.before [] .endInString)
  | '"' :: rest => .ok rest
  | '\\' :: 'u' :: a :: b :: c :: d :: rest =>
    if (hexValue a b c d).isSome then skipString rest else .error (noUnit (a :: b :: c :: d :: rest))
  | '\\' :: 'u' :: rest => .error (noUnit rest)
  | ['\\'] => .error (.before [] .endInString)
  | '\\' :: escape :: rest =>
    if (simpleEscape? escape).isSome then skipString rest else .error (.within (escape :: rest) .badEscape)
  | c :: rest => if c.toNat < 0x20 then .error (.before rest .control) else skipString rest

/-- The characters of a string that starts after a quotation mark. A first half may be waiting for
the other one. -/
def stringChars : (half : Option Nat) → List Char → Except Break (List Char)
  | _, [] => .error (.before [] .endInString)
  | half, '\\' :: 'u' :: a :: b :: c :: d :: rest =>
    match hexValue a b c d, half with
    | none, _ => .error (noUnit (a :: b :: c :: d :: rest))
    | some unit, none =>
      if isFirstHalf unit then stringChars (some unit) rest
      else if isSecondHalf unit then .error (.before rest .loneHalf)
      else (stringChars none rest).map (Char.ofNat unit :: ·)
    | some unit, some first =>
      if isSecondHalf unit then (stringChars none rest).map (paired first unit :: ·)
      else .error (.before rest .loneHalf)
  | _, '\\' :: 'u' :: rest => .error (noUnit rest)
  | _, ['\\'] => .error (.before [] .endInString)
  | some _, '\\' :: rest => .error (.within rest .openPair)
  | some _, rest => .error (.within rest .openPair)
  | none, '"' :: _ => .ok []
  | none, '\\' :: escape :: rest =>
    match simpleEscape? escape with
    | some c => (stringChars none rest).map (c :: ·)
    | none => .error (.within (escape :: rest) .badEscape)
  | none, c :: rest =>
    if c.toNat < 0x20 then .error (.before rest .control) else (stringChars none rest).map (c :: ·)

private theorem hexValue_control : ∀ n, n < 0x20 →
    hexValue '0' '0' (Nat.digitChar (n / 16)) (Nat.digitChar (n % 16)) = some n := by
  decide

section Control
variable (c : Char) (control : c.toNat < 0x20) (rest : List Char)
include control

/-- A control character that is spelled by its number is read as itself. -/
theorem stringChars_control :
    stringChars none ('\\' :: 'u' :: '0' :: '0' :: Nat.digitChar (c.toNat / 16) :: Nat.digitChar (c.toNat % 16) :: rest) =
      (stringChars none rest).map (c :: ·) := by
  have first : isFirstHalf c.toNat = false := by simp [isFirstHalf]; omega
  have second : isSecondHalf c.toNat = false := by simp [isSecondHalf]; omega
  simp [stringChars, hexValue_control _ control, first, second]

theorem skipString_control :
    skipString ('\\' :: 'u' :: '0' :: '0' :: Nat.digitChar (c.toNat / 16) :: Nat.digitChar (c.toNat % 16) :: rest) =
      skipString rest := by
  simp [skipString, hexValue_control _ control]

end Control

section Plain
variable {c : Char} (quote : c ≠ '"') (backslash : c ≠ '\\') (printable : ¬ c.toNat < 0x20) (rest : List Char)
include quote backslash printable

theorem stringChars_plain : stringChars none (c :: rest) = (stringChars none rest).map (c :: ·) := by
  rw [stringChars, if_neg printable]
  all_goals
    intros
    contradiction

theorem skipString_plain : skipString (c :: rest) = skipString rest := by
  rw [skipString, if_neg printable]
  all_goals
    intros
    contradiction

end Plain

/-- The string that starts after a quotation mark, and what follows it. -/
def scanString (cs : List Char) : Except (Flaw Break) String × List Char :=
  match stringChars none cs, skipString cs with
  | .ok chars, .ok rest => (.ok (String.ofList chars), rest)
  | .ok _, .error fault => (.error (.dead fault), [])
  | .error fault, .ok rest => (.error ⟨fault, fault, none⟩, rest)
  | .error fault, .error passing => (.error ⟨fault, fault, some passing⟩, [])

end NanAdapter.Json
