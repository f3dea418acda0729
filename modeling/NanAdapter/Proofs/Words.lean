import Mathlib.Data.List.TakeWhile
import NanAdapter.Text.Blank
import NanAdapter.Text.Decimal

/-! The word that a text holds between blanks, and the numbers that a word can be. A word is found by trimming, and by
nothing else: whatever the text, it holds one word only. -/

namespace NanAdapter

namespace Text
variable {before after word cs : List Char}

/-- A text in which there is nothing but blanks. -/
def Blank (cs : List Char) : Prop := ∀ c ∈ cs, isBlank c = true

instance : Decidable (Blank cs) := List.decidableBAll _ cs

/-- No blank stands at either end. -/
structure Bare (word : List Char) : Prop where
  first : ∀ c, word.head? = some c → isBlank c = false
  last : ∀ c, word.getLast? = some c → isBlank c = false

instance : Decidable (Bare word) :=
  decidable_of_iff ((word.head?.all fun c => !isBlank c) = true ∧ (word.getLast?.all fun c => !isBlank c) = true) <| by
    simp only [Option.all_eq_true, Bool.not_eq_true']
    exact ⟨fun ⟨first, last⟩ => ⟨first, last⟩, fun bare => ⟨bare.first, bare.last⟩⟩

/-- The text is the word with blanks around it. -/
def Padded (word cs : List Char) : Prop :=
  ∃ before after, Blank before ∧ Blank after ∧ cs = before ++ word ++ after

/-- The word is all that the text has between the blanks at its ends. There may be blanks inside it. -/
structure Word (text : String) (word : List Char) : Prop where
  padded : Padded word text.toList
  bare : Bare word

theorem dropWhile_isBlank (starts : ∀ c, cs.head? = some c → isBlank c = false) : cs.dropWhile isBlank = cs := by
  cases cs with
  | nil => rfl
  | cons c rest =>
    have stands : ¬ isBlank c = true := by simp [starts c rfl]
    exact List.dropWhile_cons_of_neg stands

theorem dropWhile_blank_append (blank : Blank before) (starts : ∀ c, cs.head? = some c → isBlank c = false) :
    (before ++ cs).dropWhile isBlank = cs := by
  rw [List.dropWhile_append_of_pos blank, dropWhile_isBlank starts]

theorem head?_dropWhile_isBlank (cs : List Char) (c : Char) (starts : (cs.dropWhile isBlank).head? = some c) :
    isBlank c = false := by
  have stopped := List.head?_dropWhile_not isBlank cs
  rw [starts] at stopped
  simpa using stopped

theorem trim_padded (bare : Bare word) (padded : Padded word cs) : trim cs = word := by
  obtain ⟨before, after, blankBefore, blankAfter, rfl⟩ := padded
  cases word with
  | nil =>
    have blank : Blank (before ++ [] ++ after) := by
      intro c member
      rw [List.append_nil, List.mem_append] at member
      exact member.elim (blankBefore c) (blankAfter c)
    rw [trim, List.dropWhile_eq_nil_iff.mpr blank]
    rfl
  | cons c rest =>
    have ends : ∀ d, (c :: rest).reverse.head? = some d → isBlank d = false := by
      intro d found
      exact bare.last d (by rwa [List.head?_reverse] at found)
    have blank : Blank after.reverse := by
      intro d member
      exact blankAfter d (List.mem_reverse.mp member)
    have starts : ∀ d, (c :: rest ++ after).head? = some d → isBlank d = false := bare.first
    rw [trim, List.append_assoc, dropWhile_blank_append blankBefore starts, List.reverse_append,
      dropWhile_blank_append blank ends, List.reverse_reverse]

/-- What is left over by trimming are the blanks at the ends. -/
theorem word_trim (text : String) : Word text (trim text.toList) := by
  let rest := text.toList.dropWhile isBlank
  have split : rest = trim text.toList ++ (rest.reverse.takeWhile isBlank).reverse := by
    have parts := congrArg List.reverse (List.takeWhile_append_dropWhile (p := isBlank) (l := rest.reverse))
    rw [List.reverse_append, List.reverse_reverse] at parts
    exact parts.symm
  refine ⟨⟨text.toList.takeWhile isBlank, (rest.reverse.takeWhile isBlank).reverse, ?_, ?_, ?_⟩, ?_, ?_⟩
  · intro c member
    exact List.mem_takeWhile_imp member
  · intro c member
    exact List.mem_takeWhile_imp (List.mem_reverse.mp member)
  · rw [List.append_assoc, ← split]
    exact List.takeWhile_append_dropWhile.symm
  · intro c found
    apply head?_dropWhile_isBlank text.toList c
    change rest.head? = some c
    rw [split, List.head?_append, found]
    rfl
  · intro c found
    rw [trim, List.getLast?_reverse] at found
    exact head?_dropWhile_isBlank _ c found

theorem word_iff {text : String} : Word text word ↔ trim text.toList = word := by
  constructor
  · intro ⟨padded, bare⟩
    exact trim_padded bare padded
  · intro trimmed
    rw [← trimmed]
    exact word_trim text

/-- Behind the blanks at its beginning a text goes on with its word. -/
theorem Word.dropWhile_eq {text : String} (stands : Word text word) (some : word ≠ []) :
    ∃ after, text.toList.dropWhile isBlank = word ++ after := by
  obtain ⟨⟨before, after, blank, -, whole⟩, bare⟩ := stands
  cases word with
  | nil => exact absurd rfl some
  | cons c rest =>
    refine ⟨after, ?_⟩
    rw [whole, List.append_assoc]
    exact dropWhile_blank_append blank bare.first

theorem not_isBlank_of_isDigit {c : Char} (digit : c.isDigit = true) : isBlank c = false := by
  have within : 48 ≤ c.toNat ∧ c.toNat ≤ 57 := by
    simp only [Char.isDigit, Bool.and_eq_true, decide_eq_true_eq] at digit
    exact ⟨digit.1, digit.2⟩
  simp only [isBlank, blankRanges, List.any_cons, List.any_nil, Bool.or_false, Bool.or_eq_false_iff,
    Bool.and_eq_false_iff, decide_eq_false_iff_not]
  omega

theorem bare_natural (n : Nat) : Bare (natural n) := by
  constructor
  · intro c found
    exact not_isBlank_of_isDigit (isDigit_of_mem_natural (List.mem_of_mem_head? found))
  · intro c found
    exact not_isBlank_of_isDigit (isDigit_of_mem_natural (List.mem_of_getLast? found))

/-- The digits of a number, in a row. Zeros may lead them. -/
structure Digits (cs : List Char) (n : Nat) : Prop where
  some : cs ≠ []
  each : ∀ c ∈ cs, c.isDigit = true
  value : Nat.ofDigitChars 10 cs 0 = n

theorem natural?_eq_some {n : Nat} : natural? cs = some n ↔ Digits cs n := by
  rw [natural?]
  split
  next digits =>
    constructor
    · intro value
      exact ⟨digits.1, List.all_eq_true.mp digits.2, Option.some.inj value⟩
    · intro spelled
      rw [spelled.value]
  next other =>
    constructor
    · intro value
      cases value
    · intro spelled
      exact absurd ⟨spelled.some, List.all_eq_true.mpr spelled.each⟩ other

/-- A plus sign may lead the digits. -/
theorem unsigned?_eq_some {n : Nat} :
    unsigned? cs = some n ↔ ∃ sign ∈ [[], ['+']], ∃ digits, cs = sign ++ digits ∧ Digits digits n := by
  constructor
  · intro value
    unfold unsigned? at value
    split at value
    next digits => exact ⟨['+'], by decide, digits, rfl, natural?_eq_some.mp value⟩
    next => exact ⟨[], by decide, cs, rfl, natural?_eq_some.mp value⟩
  · intro ⟨sign, listed, digits, spelled, value⟩
    have read := natural?_eq_some.mpr value
    have signs : sign = [] ∨ sign = ['+'] := by simpa using listed
    subst spelled
    obtain rfl | rfl := signs
    · unfold unsigned?
      split
      next rest plus =>
        have plus : digits = '+' :: rest := plus
        have digit := value.each '+' (by rw [plus]; exact List.mem_cons_self)
        exact absurd digit (by decide)
      next => exact read
    · exact read

end Text

end NanAdapter
