/-! Whole numbers in decimal: the shortest spelling, and the value of any spelling. -/

namespace NanAdapter.Text

/-- The digits of a number, no leading zero. -/
def natural (n : Nat) : List Char := Nat.toDigits 10 n

def integer : Int → List Char
  | .ofNat n => natural n
  | .negSucc n => '-' :: natural (n + 1)

def decimal (n : Nat) : String := String.ofList (natural n)

/-- The value of a non-empty run of digits. -/
def natural? (cs : List Char) : Option Nat :=
  if cs ≠ [] ∧ cs.all Char.isDigit then some (Nat.ofDigitChars 10 cs 0) else none

/-- The value of digits that may follow a plus sign. -/
def unsigned? : List Char → Option Nat
  | '+' :: digits => natural? digits
  | digits => natural? digits

theorem natural?_natural (n : Nat) : natural? (natural n) = some n := by
  have digits : (Nat.toDigits 10 n).all Char.isDigit := by
    simp only [List.all_eq_true]
    intro c member
    exact Nat.isDigit_of_mem_toDigits (by decide) (by decide) member
  simp [natural?, natural, digits, Nat.toDigits_ne_nil, Nat.ofDigitChars_toDigits]

theorem natural_ne_nil (n : Nat) : natural n ≠ [] := Nat.toDigits_ne_nil

theorem isDigit_of_mem_natural {n : Nat} {c : Char} (member : c ∈ natural n) : c.isDigit = true :=
  Nat.isDigit_of_mem_toDigits (by decide) (by decide) member

/-- Only zero starts with the digit zero. -/
theorem natural_leading_zero {n : Nat} (leading : (natural n).head? = some '0') : n = 0 := by
  induction n using Nat.strongRecOn with
  | ind n ih =>
    rw [natural, Nat.toDigits_eq_if (by decide)] at leading
    split at leading
    next small =>
      have digits : ∀ d, d < 10 → d.digitChar = '0' → d = 0 := by decide
      exact digits n small (by simpa using leading)
    next large =>
      obtain ⟨c, cs, higher⟩ := List.exists_cons_of_ne_nil (natural_ne_nil (n / 10))
      have first : (natural (n / 10)).head? = some '0' := by
        rw [← natural, higher] at leading
        rw [higher]
        exact leading
      have none_higher := ih (n / 10) (by omega) first
      omega

end NanAdapter.Text
