import NanAdapter.Proofs.Documents
import NanAdapter.Proofs.FewerDigits

/-! Scanning a number that breaks off. Either all of it is there, or the end of the text shows, or what is there is a
number with fewer digits. -/

namespace NanAdapter

namespace Json

/-- A cut falls behind the first part of a text, or something of that part is missing. -/
theorem append_cut {used rest p q : List Char} (same : used ++ rest = p ++ q) :
    (∃ r, p = used ++ r ∧ rest = r ++ q) ∨ ∃ missing, missing ≠ [] ∧ used = p ++ missing := by
  rcases List.append_eq_append_iff.mp same with ⟨r, behind, left⟩ | ⟨missing, used, -⟩
  · exact .inl ⟨r, behind, left⟩
  · by_cases whole : missing = []
    · subst whole
      rw [List.append_nil] at used
      subst used
      exact .inl ⟨[], (List.append_nil _).symm, List.append_cancel_left same⟩
    · exact .inr ⟨missing, whole, used⟩

/-! Runs of digits -/

/-- No digit comes next. -/
def Stops (rest : List Char) : Prop := rest.head?.any Char.isDigit = false

theorem Stops.of_append {r q : List Char} (stops : Stops (r ++ q)) : Stops r := by
  cases r with
  | nil => rfl
  | cons c cs => exact stops

theorem Stops.append {r : List Char} (stops : Stops r) (present : r ≠ []) (more : List Char) : Stops (r ++ more) := by
  obtain ⟨c, cs, rfl⟩ := List.exists_cons_of_ne_nil present
  exact stops

structure Digits (ds : List Char) : Prop where
  present : ds ≠ []
  all : ∀ d ∈ ds, d.isDigit = true

theorem Digits.of_append {ds es : List Char} (digits : Digits (ds ++ es)) (present : ds ≠ []) : Digits ds :=
  ⟨present, fun d member => digits.all d (List.mem_append_left es member)⟩

theorem scanDigits_eq_ok {cs ds rest : List Char} :
    scanDigits cs = .ok (ds, rest) ↔ cs = ds ++ rest ∧ Digits ds ∧ Stops rest := by
  constructor
  · intro scanned
    rw [scanDigits] at scanned
    split at scanned
    next => cases scanned
    next present =>
      cases scanned
      refine ⟨List.takeWhile_append_dropWhile.symm, ⟨present, List.all_eq_true.mp List.all_takeWhile⟩, ?_⟩
      have first := List.head?_dropWhile_not Char.isDigit cs
      rw [Stops]
      cases next : (cs.dropWhile Char.isDigit).head? with
      | none => rfl
      | some c =>
        rw [next] at first
        exact first
  · rintro ⟨rfl, ⟨present, all⟩, stops⟩
    have outside : rest.takeWhile Char.isDigit = [] ∧ rest.dropWhile Char.isDigit = rest := by
      cases rest with
      | nil => exact ⟨rfl, rfl⟩
      | cons c cs =>
        have other : c.isDigit = false := stops
        simp [other]
    simp only [scanDigits, List.takeWhile_append_of_pos all, List.dropWhile_append_of_pos all, outside,
      List.append_nil, present, if_false]

/-- Digits without a needless zero in front. -/
structure Whole (ds : List Char) : Prop extends Digits ds where
  leading : ds.head? = some '0' → ds = ['0']

theorem Whole.of_append {ds es : List Char} (whole : Whole (ds ++ es)) (present : ds ≠ []) : Whole ds := by
  refine ⟨whole.toDigits.of_append present, fun zero => ?_⟩
  obtain ⟨d, ds, rfl⟩ := List.exists_cons_of_ne_nil present
  have same := whole.leading zero
  cases ds with
  | nil => exact congrArg (· :: []) (Option.some.inj zero)
  | cons e ds => cases same

theorem scanWhole_eq_ok {cs ds rest : List Char} :
    scanWhole cs = .ok (ds, rest) ↔ cs = ds ++ rest ∧ Whole ds ∧ Stops rest := by
  rw [scanWhole.eq_def]
  split
  next after =>
    constructor
    · intro scanned
      split at scanned
      next => cases scanned
      next stops =>
        cases scanned
        exact ⟨rfl, ⟨⟨nofun, List.forall_mem_singleton.mpr rfl⟩, fun _ => rfl⟩, Bool.eq_false_iff.mpr stops⟩
    · rintro ⟨same, whole, stops⟩
      obtain ⟨d, ds, rfl⟩ := List.exists_cons_of_ne_nil whole.present
      cases same
      cases whole.leading rfl
      exact if_neg (Bool.eq_false_iff.mp stops)
  next other =>
    rw [scanDigits_eq_ok]
    constructor
    · rintro ⟨rfl, digits, stops⟩
      refine ⟨rfl, ⟨digits, fun zero => ?_⟩, stops⟩
      obtain ⟨d, ds, rfl⟩ := List.exists_cons_of_ne_nil digits.present
      cases zero
      exact absurd rfl (other _)
    · exact fun ⟨same, whole, stops⟩ => ⟨same, whole.toDigits, stops⟩

theorem scanFraction_eq_ok {cs ds rest : List Char} :
    scanFraction cs = .ok (ds, rest) ↔
      ds = [] ∧ cs = rest ∧ rest.head? ≠ some '.' ∨ cs = '.' :: (ds ++ rest) ∧ Digits ds ∧ Stops rest := by
  rw [scanFraction.eq_def]
  split
  next after =>
    rw [scanDigits_eq_ok]
    constructor
    · rintro ⟨rfl, digits, stops⟩
      exact .inr ⟨rfl, digits, stops⟩
    · rintro (⟨-, rfl, other⟩ | ⟨same, digits, stops⟩)
      · exact absurd rfl other
      · exact ⟨List.cons.inj same |>.2, digits, stops⟩
  next other =>
    constructor
    · intro scanned
      cases scanned
      refine .inl ⟨rfl, rfl, fun first => ?_⟩
      obtain ⟨after, same⟩ := List.head?_eq_some_iff.mp first
      exact other after same
    · rintro (⟨rfl, rfl, -⟩ | ⟨rfl, -, -⟩)
      · rfl
      · exact absurd rfl (other _)

/-- No power of ten comes next. -/
def Unscaled (rest : List Char) : Prop := rest.head? ≠ some 'e' ∧ rest.head? ≠ some 'E'

theorem Unscaled.of_append {r q : List Char} (unscaled : Unscaled (r ++ q)) : Unscaled r := by
  cases r with
  | nil => exact ⟨nofun, nofun⟩
  | cons c cs => exact unscaled

/-- Whether a power is negative, and its digits. -/
def sign : List Char → Bool × List Char
  | '-' :: cs => (true, cs)
  | '+' :: cs => (false, cs)
  | cs => (false, cs)

theorem sign_append {cs : List Char} (present : cs ≠ []) (more : List Char) :
    sign (cs ++ more) = ((sign cs).1, (sign cs).2 ++ more) := by
  obtain ⟨c, cs, rfl⟩ := List.exists_cons_of_ne_nil present
  rw [sign.eq_def (c :: cs)]
  split
  next same => cases same; rfl
  next same => cases same; rfl
  next minus plus =>
    rw [sign.eq_def]
    split
    next same => cases same; exact absurd rfl (minus cs)
    next same => cases same; exact absurd rfl (plus cs)
    next => rfl

def scanPower (cs : List Char) : Except (Flaw Break) (Option Exponent × List Char) :=
  (scanDigits (sign cs).2).map fun (digits, rest) => (some ⟨(sign cs).1, digits⟩, rest)

theorem scanExponent_scaled {letter : Char} (scaled : letter = 'e' ∨ letter = 'E') (after : List Char) :
    scanExponent (letter :: after) = scanPower after := by
  rcases scaled with rfl | rfl <;> rfl

theorem scanExponent_unscaled {cs : List Char} (unscaled : Unscaled cs) : scanExponent cs = .ok (none, cs) := by
  rw [scanExponent.eq_def]
  split
  next => exact absurd rfl unscaled.1
  next => exact absurd rfl unscaled.2
  next => rfl

theorem unscaled_or (cs : List Char) :
    Unscaled cs ∨ ∃ letter after, (letter = 'e' ∨ letter = 'E') ∧ cs = letter :: after := by
  cases cs with
  | nil => exact .inl ⟨nofun, nofun⟩
  | cons letter after =>
    by_cases scaled : letter = 'e' ∨ letter = 'E'
    · exact .inr ⟨letter, after, scaled, rfl⟩
    · obtain ⟨small, large⟩ := not_or.mp scaled
      exact .inl ⟨fun same => small (Option.some.inj same), fun same => large (Option.some.inj same)⟩

theorem scanExponent_eq_none {cs rest : List Char} :
    scanExponent cs = .ok (none, rest) ↔ cs = rest ∧ Unscaled rest := by
  constructor
  · intro scanned
    rcases unscaled_or cs with unscaled | ⟨letter, after, scaled, rfl⟩
    · rw [scanExponent_unscaled unscaled] at scanned
      cases scanned
      exact ⟨rfl, unscaled⟩
    · rw [scanExponent_scaled scaled] at scanned
      obtain ⟨_, -, impossible⟩ := map_eq_ok.mp scanned
      cases impossible
  · rintro ⟨rfl, unscaled⟩
    exact scanExponent_unscaled unscaled

/-! Numbers -/

/-- What comes after the sign. -/
def scanUnsigned (negative : Bool) (cs : List Char) : Except (Flaw Break) (Numeral × List Char) := do
  let (whole, rest) ← scanWhole cs
  let (fraction, rest) ← scanFraction rest
  let (exponent, rest) ← scanExponent rest
  return (⟨negative, whole, fraction, exponent⟩, rest)

theorem scanNumeral_cons (c : Char) (cs : List Char) :
    scanNumeral (c :: cs) = if c = '-' then scanUnsigned true cs else scanUnsigned false (c :: cs) := by
  split
  next minus =>
    subst minus
    rfl
  next other =>
    rw [scanNumeral]
    · rfl
    · rintro rest same
      exact other (List.cons.inj same).1

theorem scanUnsigned_eq_ok {negative : Bool} {cs rest : List Char} {n : Numeral} :
    scanUnsigned negative cs = .ok (n, rest) ↔ n.negative = negative ∧
      ∃ behind after, scanWhole cs = .ok (n.whole, behind) ∧ scanFraction behind = .ok (n.fraction, after) ∧
        scanExponent after = .ok (n.exponent, rest) := by
  simp only [scanUnsigned, bind_eq_ok]
  constructor
  · rintro ⟨⟨whole, behind⟩, first, ⟨fraction, after⟩, second, ⟨exponent, last⟩, third, same⟩
    cases same
    exact ⟨rfl, behind, after, first, second, third⟩
  · rintro ⟨rfl, behind, after, first, second, third⟩
    exact ⟨_, first, _, second, _, third, rfl⟩

/-- A number without exponent that breaks off is whole, or it ends too early, or it is a number with fewer digits. -/
theorem scanUnsigned_cut {negative : Bool} {p q rest : List Char} {n : Numeral}
    (scanned : scanUnsigned negative (p ++ q) = .ok (n, rest)) (unscaled : n.exponent = none) :
    (∃ r, rest = r ++ q ∧ scanUnsigned negative p = .ok (n, r)) ∨
      (∃ flaw, scanUnsigned negative p = .error flaw ∧ flaw.reading.breach.isEnd = true) ∨
      ∃ m, scanUnsigned negative p = .ok (m, []) ∧ (n.real?.isSome → m.real?.isSome) := by
  obtain ⟨negative', whole, fraction, exponent⟩ := n
  obtain ⟨rfl, behind, after, first, second, third⟩ := scanUnsigned_eq_ok.mp scanned
  dsimp only at unscaled first second third
  subst unscaled
  obtain ⟨rfl, ended⟩ := scanExponent_eq_none.mp third
  obtain ⟨same, digits, stops⟩ := scanWhole_eq_ok.mp first
  have alone {ds : List Char} (whole : Whole ds) : scanUnsigned negative' ds = .ok (⟨negative', ds, [], none⟩, []) :=
    scanUnsigned_eq_ok.mpr ⟨rfl, [], [], scanWhole_eq_ok.mpr ⟨(List.append_nil ds).symm, whole, rfl⟩, rfl, rfl⟩
  rcases append_cut same.symm with ⟨behind, rfl, rfl⟩ | ⟨missing, -, rfl⟩
  case inr =>
    by_cases nothing : p = []
    · subst nothing
      exact .inr (.inl ⟨_, rfl, rfl⟩)
    · have fewer := Numeral.real?_of_whole negative' (List.prefix_append p missing) digits.all fraction
      exact .inr (.inr ⟨_, alone (digits.of_append nothing), fewer⟩)
  case inl =>
    have begun : scanWhole (whole ++ behind) = .ok (whole, behind) :=
      scanWhole_eq_ok.mpr ⟨rfl, digits, stops.of_append⟩
    have ends {ds rest : List Char} (taken : scanFraction behind = .ok (ds, rest)) (ended : Unscaled rest) :
        scanUnsigned negative' (whole ++ behind) = .ok (⟨negative', whole, ds, none⟩, rest) :=
      scanUnsigned_eq_ok.mpr ⟨rfl, behind, rest, begun, taken, scanExponent_eq_none.mpr ⟨rfl, ended⟩⟩
    rcases scanFraction_eq_ok.mp second with ⟨rfl, rfl, other⟩ | ⟨point, decimals, stops⟩
    · refine .inl ⟨behind, rfl, ends (scanFraction_eq_ok.mpr (.inl ⟨rfl, rfl, ?_⟩)) ended.of_append⟩
      cases behind with
      | nil => exact nofun
      | cons c cs => exact other
    · rcases List.append_eq_cons_iff.mp point with ⟨rfl, -⟩ | ⟨decimal, rfl, tail⟩
      · rw [List.append_nil]
        exact .inr (.inr ⟨_, alone digits, Numeral.real?_of_whole negative' (List.prefix_refl _) digits.all _⟩)
      · rcases append_cut tail with ⟨left, rfl, rfl⟩ | ⟨missing, -, rfl⟩
        · have taken : scanFraction ('.' :: (fraction ++ left)) = .ok (fraction, left) :=
            scanFraction_eq_ok.mpr (.inr ⟨rfl, decimals, stops.of_append⟩)
          exact .inl ⟨left, rfl, ends taken ended.of_append⟩
        · by_cases nothing : decimal = []
          · subst nothing
            exact .inr (.inl ⟨_, by rw [scanUnsigned, begun]; rfl, rfl⟩)
          · have taken : scanFraction ('.' :: decimal) = .ok (decimal, []) :=
              scanFraction_eq_ok.mpr (.inr ⟨by rw [List.append_nil], decimals.of_append nothing, rfl⟩)
            have others := (decimals.of_append nothing).all
            have fewer := Numeral.real?_of_fraction negative' digits.all others nothing missing
            exact .inr (.inr ⟨_, ends taken ⟨nofun, nofun⟩, fewer⟩)

theorem scanNumeral_cut {p q rest : List Char} {n : Numeral} (scanned : scanNumeral (p ++ q) = .ok (n, rest))
    (unscaled : n.exponent = none) :
    (∃ r, rest = r ++ q ∧ scanNumeral p = .ok (n, r)) ∨
      (∃ flaw, scanNumeral p = .error flaw ∧ flaw.reading.breach.isEnd = true) ∨
      ∃ m, scanNumeral p = .ok (m, []) ∧ (n.real?.isSome → m.real?.isSome) := by
  cases p with
  | nil => exact .inr (.inl ⟨_, rfl, rfl⟩)
  | cons c p =>
    rw [List.cons_append, scanNumeral_cons] at scanned
    rw [scanNumeral_cons]
    split at scanned
    next minus =>
      rw [if_pos minus]
      exact scanUnsigned_cut scanned unscaled
    next other =>
      rw [if_neg other]
      exact scanUnsigned_cut (p := c :: p) scanned unscaled

/-! What follows a number does not matter, once something does. -/

section More
variable {cs ds rest : List Char} (present : rest ≠ []) (more : List Char)
include present

theorem scanDigits_more (scanned : scanDigits cs = .ok (ds, rest)) :
    scanDigits (cs ++ more) = .ok (ds, rest ++ more) := by
  obtain ⟨rfl, digits, stops⟩ := scanDigits_eq_ok.mp scanned
  exact scanDigits_eq_ok.mpr ⟨List.append_assoc _ _ _, digits, stops.append present more⟩

theorem scanWhole_more (scanned : scanWhole cs = .ok (ds, rest)) : scanWhole (cs ++ more) = .ok (ds, rest ++ more) := by
  obtain ⟨rfl, whole, stops⟩ := scanWhole_eq_ok.mp scanned
  exact scanWhole_eq_ok.mpr ⟨List.append_assoc _ _ _, whole, stops.append present more⟩

theorem scanFraction_more (scanned : scanFraction cs = .ok (ds, rest)) :
    scanFraction (cs ++ more) = .ok (ds, rest ++ more) := by
  rcases scanFraction_eq_ok.mp scanned with ⟨rfl, rfl, other⟩ | ⟨rfl, digits, stops⟩
  · refine scanFraction_eq_ok.mpr (.inl ⟨rfl, rfl, ?_⟩)
    obtain ⟨c, cs, rfl⟩ := List.exists_cons_of_ne_nil present
    exact other
  · exact scanFraction_eq_ok.mpr (.inr ⟨by simp, digits, stops.append present more⟩)

theorem scanExponent_more {exponent : Option Exponent} (scanned : scanExponent cs = .ok (exponent, rest)) :
    scanExponent (cs ++ more) = .ok (exponent, rest ++ more) := by
  rcases unscaled_or cs with unscaled | ⟨letter, after, scaled, rfl⟩
  · rw [scanExponent_unscaled unscaled] at scanned
    cases scanned
    obtain ⟨c, cs, rfl⟩ := List.exists_cons_of_ne_nil present
    exact scanExponent_unscaled unscaled
  · rw [scanExponent_scaled scaled] at scanned
    obtain ⟨⟨digits, last⟩, taken, same⟩ := map_eq_ok.mp scanned
    cases same
    have follows : after ≠ [] := by
      rintro rfl
      cases taken
    rw [List.cons_append, scanExponent_scaled scaled, scanPower, sign_append follows,
      scanDigits_more present more taken]
    rfl

theorem scanUnsigned_more {negative : Bool} {n : Numeral} (scanned : scanUnsigned negative cs = .ok (n, rest)) :
    scanUnsigned negative (cs ++ more) = .ok (n, rest ++ more) := by
  obtain ⟨negative', whole, fraction, exponent⟩ := n
  obtain ⟨sign, behind, after, first, second, third⟩ := scanUnsigned_eq_ok.mp scanned
  dsimp only at first second third
  have later : after ≠ [] := by
    rintro rfl
    cases third
    exact present rfl
  have soon : behind ≠ [] := by
    rintro rfl
    cases second
    exact later rfl
  exact scanUnsigned_eq_ok.mpr ⟨sign, _, _, scanWhole_more soon more first, scanFraction_more later more second,
    scanExponent_more present more third⟩

theorem scanNumeral_more {n : Numeral} (scanned : scanNumeral cs = .ok (n, rest)) :
    scanNumeral (cs ++ more) = .ok (n, rest ++ more) := by
  cases cs with
  | nil => cases scanned
  | cons c cs =>
    rw [scanNumeral_cons] at scanned
    rw [List.cons_append, scanNumeral_cons]
    split at scanned
    next minus =>
      rw [if_pos minus]
      exact scanUnsigned_more present more scanned
    next other =>
      rw [if_neg other]
      exact scanUnsigned_more present more scanned

end More

/-! Texts without exponents -/

/-- No number has an exponent: outside strings, no digit has the letter for one behind it. -/
def noExponent : (quoted : Bool) → List Char → Bool
  | _, [] => true
  | true, '\\' :: _ :: rest => noExponent true rest
  | true, c :: rest => noExponent (c != '"') rest
  | false, c :: rest =>
    !(c.isDigit && (rest.head? == some 'e' || rest.head? == some 'E')) && noExponent (c == '"') rest

theorem noExponent_other {c : Char} {cs : List Char} (other : c ≠ '"') (plain : noExponent false (c :: cs)) :
    noExponent false cs := by
  rw [noExponent, Bool.and_eq_true, beq_eq_false_iff_ne.mpr other] at plain
  exact plain.2

theorem noExponent_digits {ds rest : List Char} (digits : Digits ds) (plain : noExponent false (ds ++ rest)) :
    noExponent false rest ∧ Unscaled rest := by
  obtain ⟨present, all⟩ := digits
  induction ds with
  | nil => exact absurd rfl present
  | cons d ds ih =>
    obtain ⟨digit, all⟩ := List.forall_mem_cons.mp all
    have other : d ≠ '"' := by
      rintro rfl
      cases digit
    have later := noExponent_other other plain
    by_cases last : ds = []
    · subst last
      refine ⟨later, ?_⟩
      rw [List.cons_append, noExponent, Bool.and_eq_true, digit] at plain
      simpa [Unscaled] using plain.1
    · exact ih later last all

theorem scanUnsigned_plain {negative : Bool} {cs rest : List Char} {n : Numeral} (plain : noExponent false cs)
    (scanned : scanUnsigned negative cs = .ok (n, rest)) :
    n.exponent = none ∧ Digits n.whole ∧ noExponent false rest ∧ rest <:+ cs := by
  obtain ⟨negative', whole, fraction, exponent⟩ := n
  obtain ⟨-, behind, after, first, second, third⟩ := scanUnsigned_eq_ok.mp scanned
  dsimp only at first second third
  obtain ⟨rfl, digits, -⟩ := scanWhole_eq_ok.mp first
  obtain ⟨plain, unscaled⟩ := noExponent_digits digits.toDigits plain
  have unraised (unscaled : Unscaled after) : exponent = none ∧ rest = after := by
    rw [scanExponent_unscaled unscaled] at third
    cases third
    exact ⟨rfl, rfl⟩
  rcases scanFraction_eq_ok.mp second with ⟨rfl, rfl, -⟩ | ⟨rfl, decimals, -⟩
  · obtain ⟨none, rfl⟩ := unraised unscaled
    exact ⟨none, digits.toDigits, plain, List.suffix_append _ _⟩
  · obtain ⟨plain, unscaled⟩ := noExponent_digits decimals (noExponent_other (by decide) plain)
    obtain ⟨none, rfl⟩ := unraised unscaled
    exact ⟨none, digits.toDigits, plain, ⟨whole ++ '.' :: fraction, by simp⟩⟩

theorem scanNumeral_plain {cs rest : List Char} {n : Numeral} (plain : noExponent false cs)
    (scanned : scanNumeral cs = .ok (n, rest)) :
    n.exponent = none ∧ Digits n.whole ∧ noExponent false rest ∧ rest <:+ cs := by
  cases cs with
  | nil => cases scanned
  | cons c cs =>
    rw [scanNumeral_cons] at scanned
    split at scanned
    next minus =>
      subst minus
      obtain ⟨none, digits, plain, ends⟩ := scanUnsigned_plain (noExponent_other (by decide) plain) scanned
      exact ⟨none, digits, plain, ends.trans (List.suffix_cons _ _)⟩
    next => exact scanUnsigned_plain plain scanned

end Json

end NanAdapter
