import NanAdapter.Json.Document

/-! Numbers in a text. A number without fraction and exponent is an integer if it fits into 64 bits
with or without sign; any other is real, and is refused if it is too large for the binary64 format.
-/

namespace NanAdapter.Json

/-- The power of ten behind a number. -/
structure Exponent where
  negative : Bool
  digits : List Char
  deriving DecidableEq, Repr

namespace Exponent

def magnitude (e : Exponent) : Nat := Nat.ofDigitChars 10 e.digits 0

def value (e : Exponent) : Int := if e.negative then -(e.magnitude : Int) else e.magnitude

/-- How many digits follow those that make the exponent too large for a signed 32-bit number. -/
def excess (e : Exponent) : Nat :=
  (List.range e.digits.length).countP fun count => 1 <<< 31 ≤ Nat.ofDigitChars 10 (e.digits.take count) 0

end Exponent

/-- The spelling of a number: sign, digits before and after the point, and exponent. -/
structure Numeral where
  negative : Bool
  whole : List Char
  fraction : List Char
  exponent : Option Exponent
  deriving DecidableEq, Repr

/-- What is kept of a run of digits: as many as a 64-bit number holds, and whether any was left out.
-/
structure Kept where
  digits : Nat
  taken : Nat
  left : Nat
  deriving DecidableEq, Repr

/-- Takes digits on until the first that no longer fits. -/
def keep (start : Nat) (ds : List Char) : Kept :=
  ds.foldl (fun kept d =>
    let next := 10 * kept.digits + (d.toNat - '0'.toNat)
    if kept.left = 0 ∧ next < UInt64.size then ⟨next, kept.taken + 1, 0⟩ else { kept with left := kept.left + 1 })
    ⟨start, 0, 0⟩

namespace Numeral

/-- The digits that count, and the power of ten that they are to be multiplied by. Digits left out
before the point raise the power, and those after it change nothing. -/
def parts (n : Numeral) : Nat × Int :=
  let whole := keep 0 n.whole
  let all := keep whole.digits n.fraction
  (all.digits, (whole.left : Int) - all.taken + (n.exponent.map Exponent.value).getD 0)

/-- The real number, unless it is too large. Digits and power are rounded before they are multiplied
or divided, and powers below 10^-308 are taken in two steps. -/
def real? (n : Numeral) : Option Binary64 :=
  let (digits, power) := n.parts
  let start := Binary64.round n.negative (.ofNat digits)
  if digits = 0 then some start
  else if 308 < power then none
  else if 0 ≤ power then some (start.mul (.ten power.toNat)) |>.filter Binary64.isFinite
  else if -308 ≤ power then some (start.div (.ten (-power).toNat))
  else if -616 ≤ power then some ((start.div (.ten 308)).div (.ten (-power - 308).toNat))
  else some (.zero n.negative)

/-- The integer that is spelled without fraction and exponent. A negative zero is none. -/
def integer? (n : Numeral) : Option Int :=
  if n.fraction = [] ∧ n.exponent = none then
    let value := Nat.ofDigitChars 10 n.whole 0
    if n.negative then
      if 0 < value ∧ 2 * value ≤ UInt64.size then some (-(value : Int)) else none
    else if value < UInt64.size then some value else none
  else none

/-- How many digits are left when the number shows to be too large. -/
def unread (n : Numeral) : Nat := (n.exponent.map Exponent.excess).getD 0

end Numeral

/-- What is missing where a digit should stand. Only when the number is read does the end of the text
matter. -/
def missingDigit (rest : List Char) : Except (Flaw Break) α :=
  let broken : Break := .within rest .badNumber
  .error ⟨if rest = [] then .before [] .endInValue else broken, broken, some broken⟩

def scanDigits (cs : List Char) : Except (Flaw Break) (List Char × List Char) :=
  let digits := cs.takeWhile Char.isDigit
  let rest := cs.dropWhile Char.isDigit
  if digits = [] then missingDigit rest else .ok (digits, rest)

def scanWhole : List Char → Except (Flaw Break) (List Char × List Char)
  | '0' :: rest =>
    if rest.head?.any Char.isDigit then .error (.dead (.within rest .badNumber)) else .ok (['0'], rest)
  | cs => scanDigits cs

def scanFraction : List Char → Except (Flaw Break) (List Char × List Char)
  | '.' :: rest => scanDigits rest
  | cs => .ok ([], cs)

def scanExponent : List Char → Except (Flaw Break) (Option Exponent × List Char)
  | 'e' :: rest | 'E' :: rest =>
    let (negative, unsigned) := match rest with
      | '-' :: cs => (true, cs)
      | '+' :: cs => (false, cs)
      | cs => (false, cs)
    (scanDigits unsigned).map fun (digits, rest) => (some ⟨negative, digits⟩, rest)
  | cs => .ok (none, cs)

/-- The number at the start of a text that starts with a digit or a minus sign, and what follows it.
-/
def scanNumeral (cs : List Char) : Except (Flaw Break) (Numeral × List Char) := do
  let (negative, unsigned) := match cs with
    | '-' :: rest => (true, rest)
    | _ => (false, cs)
  let (whole, rest) ← scanWhole unsigned
  let (fraction, rest) ← scanFraction rest
  let (exponent, rest) ← scanExponent rest
  return (⟨negative, whole, fraction, exponent⟩, rest)

/-- Nothing comes next that could belong to a number. -/
def Closes (rest : List Char) : Prop :=
  ∀ c cs, rest = c :: cs → c.isDigit = false ∧ c ≠ '.' ∧ c ≠ 'e' ∧ c ≠ 'E'

section Integers
variable {digits rest : List Char} (present : digits ≠ []) (all : ∀ c ∈ digits, c.isDigit = true)
  (leading : digits.head? = some '0' → digits = ['0']) (closes : Closes rest)
include present all closes

private theorem scanDigits_append : scanDigits (digits ++ rest) = .ok (digits, rest) := by
  have outside : rest.takeWhile Char.isDigit = [] ∧ rest.dropWhile Char.isDigit = rest := by
    cases rest with
    | nil => exact ⟨rfl, rfl⟩
    | cons c cs => simp [(closes c cs rfl).1]
  simp only [scanDigits, List.takeWhile_append_of_pos all, List.dropWhile_append_of_pos all, outside, List.append_nil,
    present, if_false]

include leading

private theorem scanWhole_append : scanWhole (digits ++ rest) = .ok (digits, rest) := by
  by_cases zero : digits.head? = some '0'
  · rw [leading zero]
    have stopped : rest.head?.any Char.isDigit = false := by
      cases rest with
      | nil => rfl
      | cons c cs => exact (closes c cs rfl).1
    simp [scanWhole, stopped]
  · unfold scanWhole
    split
    next shape =>
      obtain ⟨d, ds, rfl⟩ := List.exists_cons_of_ne_nil present
      cases shape
      exact absurd rfl zero
    next => exact scanDigits_append present all closes

/-- A run of digits without a needless zero in front is all of an integer. -/
theorem scanNumeral_digits (negative : Bool) :
    scanNumeral ((if negative then ['-'] else []) ++ digits ++ rest) = .ok (⟨negative, digits, [], none⟩, rest) := by
  have whole := scanWhole_append present all leading closes
  have fraction : scanFraction rest = .ok ([], rest) := by
    unfold scanFraction
    split
    next cs => exact absurd rfl (closes _ cs rfl).2.1
    next => rfl
  have exponent : scanExponent rest = .ok (none, rest) := by
    unfold scanExponent
    split
    next cs => exact absurd rfl (closes _ cs rfl).2.2.1
    next cs => exact absurd rfl (closes _ cs rfl).2.2.2
    next => rfl
  cases negative with
  | true =>
    simp only [scanNumeral, if_true, List.cons_append, List.nil_append, whole]
    simp only [bind, Except.bind, fraction, exponent]
    rfl
  | false =>
    have unsigned : ∀ cs, digits ++ rest ≠ '-' :: cs := by
      intro cs shape
      obtain ⟨d, ds, rfl⟩ := List.exists_cons_of_ne_nil present
      cases shape
      exact absurd (all '-' List.mem_cons_self) (by decide)
    simp only [scanNumeral, Bool.false_eq_true, if_false, List.nil_append, whole]
    simp only [bind, Except.bind, fraction, exponent]
    rfl

end Integers

/-- A number's document. A text can be followed past a number that is too large. -/
def scanNumber (cs : List Char) : Doc Break × List Char :=
  match scanNumeral cs with
  | .error flaw => (.flawed flaw, [])
  | .ok (numeral, rest) =>
    match numeral.integer? with
    | some value => (.int value, rest)
    | none => match numeral.real? with
      | some value => (.real value, rest)
      | none =>
        let fault : Break := ⟨.hugeNumber, Text.octets rest + numeral.unread⟩
        (.flawed ⟨fault, fault, none⟩, rest)

end NanAdapter.Json
