import NanAdapter.Proofs.CutNumbers
import NanAdapter.Json.Strings

/-! Scanning a string that breaks off. Its spelling is a sequence of pieces with a quotation mark behind them, and
wherever it is cut, the end of the text shows. -/

namespace NanAdapter

/-- The text ends too early. -/
def Break.Ends (b : Break) : Prop := b.breach.isEnd = true

namespace Json

/-! Units -/

theorem hexValue?_eq_some {c : Char} {value : Nat} (hex : hexValue? c = some value) :
    c.utf8Size = 1 ∧ c ≠ '"' ∧ c ≠ '\\' := by
  have bounds : c.toNat ≤ 102 ∧ c ≠ '"' ∧ c ≠ '\\' := by
    refine ⟨?_, ?_, ?_⟩
    · rw [hexValue?] at hex
      split at hex
      next digit => exact Nat.le_trans (Char.isDigit_iff_toNat.mp digit).2 (by decide)
      next =>
        split at hex
        next small => exact small.2
        next =>
          split at hex
          next large => exact Nat.le_trans large.2 (by decide)
          next => cases hex
    · rintro rfl
      cases hex
    · rintro rfl
      cases hex
  refine ⟨Char.utf8Size_eq_one_iff.mpr ?_, bounds.2⟩
  exact UInt32.le_iff_toNat_le.mpr (Nat.le_trans bounds.1 (by decide))

/-- The characters of a unit take one octet each and do not end the string. -/
theorem hexValue_eq_some {a b c d : Char} {unit : Nat} (hex : hexValue a b c d = some unit) :
    ∀ digit ∈ [a, b, c, d], digit.utf8Size = 1 ∧ digit ≠ '"' ∧ digit ≠ '\\' := by
  simp only [hexValue, bind, Option.bind_eq_some_iff] at hex
  obtain ⟨_, first, _, second, _, third, _, fourth, -⟩ := hex
  simp only [List.forall_mem_cons]
  exact ⟨hexValue?_eq_some first, hexValue?_eq_some second, hexValue?_eq_some third, hexValue?_eq_some fourth, nofun⟩

theorem noUnit_ends {cs : List Char} (short : cs.length < 4) (narrow : ∀ c ∈ cs, c.utf8Size = 1) :
    (noUnit cs).Ends := by
  have octets : Text.octets cs = cs.length := by
    clear short
    induction cs with
    | nil => rfl
    | cons c cs ih =>
      obtain ⟨here, later⟩ := List.forall_mem_cons.mp narrow
      rw [Text.octets, here, ih later, List.length_cons, Nat.add_comm]
  rw [noUnit, octets, if_pos short]
  rfl

/-- A unit that breaks off. -/
theorem short_unit (half : Option Nat) {cs : List Char} (short : cs.length < 4) :
    stringChars half ('\\' :: 'u' :: cs) = .error (noUnit cs) ∧
      skipString ('\\' :: 'u' :: cs) = .error (noUnit cs) := by
  rcases cs with _ | ⟨a, _ | ⟨b, _ | ⟨c, _ | ⟨d, cs⟩⟩⟩⟩
  case cons.cons.cons.cons =>
    simp only [List.length_cons] at short
    omega
  all_goals
    refine ⟨?_, rfl⟩
    cases half <;> rfl

/-! Spellings -/

/-- What a string is spelled with, up to the quotation mark behind it. The first half of a pair may be waiting for the
other one. -/
inductive Spells : (half : Option Nat) → (used chars : List Char) → Prop where
  | close : Spells none ['"'] []
  | first {a b c d unit used chars} (hex : hexValue a b c d = some unit) (half : isFirstHalf unit = true)
      (rest : Spells (some unit) used chars) : Spells none ('\\' :: 'u' :: a :: b :: c :: d :: used) chars
  | second {a b c d first unit used chars} (hex : hexValue a b c d = some unit) (half : isSecondHalf unit = true)
      (rest : Spells none used chars) :
      Spells (some first) ('\\' :: 'u' :: a :: b :: c :: d :: used) (paired first unit :: chars)
  | unit {a b c d unit used chars} (hex : hexValue a b c d = some unit) (first : ¬ isFirstHalf unit = true)
      (second : ¬ isSecondHalf unit = true) (rest : Spells none used chars) :
      Spells none ('\\' :: 'u' :: a :: b :: c :: d :: used) (Char.ofNat unit :: chars)
  | escape {letter c used chars} (known : simpleEscape? letter = some c) (rest : Spells none used chars) :
      Spells none ('\\' :: letter :: used) (c :: chars)
  | plain {c used chars} (quote : c ≠ '"') (backslash : c ≠ '\\') (printable : ¬ c.toNat < 0x20)
      (rest : Spells none used chars) : Spells none (c :: used) (c :: chars)

theorem exists_spells (half : Option Nat) (cs : List Char) {chars : List Char} :
    stringChars half cs = .ok chars → ∃ used rest, cs = used ++ rest ∧ Spells half used chars := by
  fun_induction stringChars half cs generalizing chars with
  | case3 a b c d rest unit hex first ih =>
    intro taken
    obtain ⟨used, rest, rfl, spelled⟩ := ih taken
    exact ⟨_, rest, rfl, .first hex first spelled⟩
  | case5 a b c d rest unit hex first second ih =>
    intro taken
    obtain ⟨others, behind, rfl⟩ := map_eq_ok.mp taken
    obtain ⟨used, rest, rfl, spelled⟩ := ih behind
    exact ⟨_, rest, rfl, .unit hex first second spelled⟩
  | case6 a b c d rest unit first hex second ih =>
    intro taken
    obtain ⟨others, behind, rfl⟩ := map_eq_ok.mp taken
    obtain ⟨used, rest, rfl, spelled⟩ := ih behind
    exact ⟨_, rest, rfl, .second hex second spelled⟩
  | case12 rest =>
    intro taken
    cases taken
    exact ⟨['"'], rest, rfl, .close⟩
  | case13 letter rest _ _ c known ih =>
    intro taken
    obtain ⟨others, behind, rfl⟩ := map_eq_ok.mp taken
    obtain ⟨used, rest, rfl, spelled⟩ := ih behind
    exact ⟨_, rest, rfl, .escape known spelled⟩
  | case16 c rest _ _ alone quote escaped printable ih =>
    intro taken
    obtain ⟨others, behind, rfl⟩ := map_eq_ok.mp taken
    have backslash : c ≠ '\\' := by
      rintro rfl
      cases rest with
      | nil => exact alone rfl rfl
      | cons letter rest => exact escaped letter rest rfl rfl
    obtain ⟨used, rest, rfl, spelled⟩ := ih behind
    exact ⟨_, rest, rfl, .plain quote backslash printable spelled⟩
  | _ => exact nofun

section Steps
variable {a b c d letter e : Char} {unit : Nat} (rest : List Char)

private theorem skipString_unit (hex : hexValue a b c d = some unit) :
    skipString ('\\' :: 'u' :: a :: b :: c :: d :: rest) = skipString rest := by
  rw [skipString, hex]
  rfl

private theorem stringChars_first (hex : hexValue a b c d = some unit) (half : isFirstHalf unit = true) :
    stringChars none ('\\' :: 'u' :: a :: b :: c :: d :: rest) = stringChars (some unit) rest := by
  rw [stringChars.eq_def]
  simp only [hex, half, if_true]

private theorem stringChars_second (hex : hexValue a b c d = some unit) (half : isSecondHalf unit = true)
    (first : Nat) : stringChars (some first) ('\\' :: 'u' :: a :: b :: c :: d :: rest) =
      (stringChars none rest).map (paired first unit :: ·) := by
  rw [stringChars.eq_def]
  simp only [hex, half, if_true]

private theorem stringChars_unit (hex : hexValue a b c d = some unit) (first : ¬ isFirstHalf unit = true)
    (second : ¬ isSecondHalf unit = true) : stringChars none ('\\' :: 'u' :: a :: b :: c :: d :: rest) =
      (stringChars none rest).map (Char.ofNat unit :: ·) := by
  rw [stringChars.eq_def]
  simp only [hex, first, second, Bool.false_eq_true, if_false]

private theorem string_escape (known : simpleEscape? letter = some e) :
    stringChars none ('\\' :: letter :: rest) = (stringChars none rest).map (e :: ·) ∧
      skipString ('\\' :: letter :: rest) = skipString rest := by
  rw [simpleEscape?.eq_def] at known
  split at known
  iterate 8
    cases known
    exact ⟨rfl, rfl⟩
  cases known

end Steps

/-- A string is read from its spelling, whatever follows. -/
theorem Spells.read {half : Option Nat} {used chars : List Char} (spelled : Spells half used chars) (rest : List Char) :
    stringChars half (used ++ rest) = .ok chars ∧ skipString (used ++ rest) = .ok rest := by
  induction spelled with
  | close => exact ⟨rfl, rfl⟩
  | first hex half _ ih =>
    simp only [List.cons_append]
    rw [stringChars_first _ hex half, skipString_unit _ hex]
    exact ih
  | second hex half _ ih =>
    simp only [List.cons_append]
    rw [stringChars_second _ hex half, skipString_unit _ hex, ih.1]
    exact ⟨rfl, ih.2⟩
  | unit hex first second _ ih =>
    simp only [List.cons_append]
    rw [stringChars_unit _ hex first second, skipString_unit _ hex, ih.1]
    exact ⟨rfl, ih.2⟩
  | escape known _ ih =>
    simp only [List.cons_append]
    rw [(string_escape _ known).1, (string_escape _ known).2, ih.1]
    exact ⟨rfl, ih.2⟩
  | plain quote backslash printable _ ih =>
    rw [List.cons_append, stringChars_plain quote backslash printable, skipString_plain quote backslash printable, ih.1]
    exact ⟨rfl, ih.2⟩

/-- The end of the text shows to whoever wants the string, and to whoever only passes over it. -/
structure Ended (half : Option Nat) (p : List Char) : Prop where
  chars : ∃ b, stringChars half p = .error b ∧ b.Ends
  skipped : ∃ b, skipString p = .error b ∧ b.Ends

theorem ended_nil (half : Option Nat) : Ended half [] := by
  refine ⟨⟨.before [] .endInString, ?_, rfl⟩, ⟨_, rfl, rfl⟩⟩
  cases half <;> rfl

theorem ended_backslash (half : Option Nat) : Ended half ['\\'] := by
  refine ⟨⟨.before [] .endInString, ?_, rfl⟩, ⟨_, rfl, rfl⟩⟩
  cases half <;> rfl

/-- A unit breaks off, or it is there and what is behind it breaks off. -/
theorem ended_unit {a b c d : Char} {unit : Nat} (hex : hexValue a b c d = some unit) (half : Option Nat)
    {used p q : List Char} (same : '\\' :: 'u' :: a :: b :: c :: d :: used = p ++ q) :
    Ended half p ∨ ∃ behind, p = '\\' :: 'u' :: a :: b :: c :: d :: behind ∧ used = behind ++ q := by
  rcases List.append_eq_cons_iff.mp same.symm with ⟨rfl, -⟩ | ⟨p, rfl, tail⟩
  · exact .inl (ended_nil half)
  rcases List.append_eq_cons_iff.mp tail.symm with ⟨rfl, -⟩ | ⟨p, rfl, digits⟩
  · exact .inl (ended_backslash half)
  have parts : [a, b, c, d] ++ used = p ++ q := digits
  rcases append_cut parts with ⟨behind, rfl, rfl⟩ | ⟨others, whole, split⟩
  · exact .inr ⟨behind, rfl, rfl⟩
  · have short : p.length < 4 := by
      have lengths := congrArg List.length split
      have positive := List.length_pos_iff.mpr whole
      rw [List.length_append] at lengths
      change 4 = _ at lengths
      omega
    have ends := noUnit_ends short fun digit member =>
      (hexValue_eq_some hex digit (split ▸ List.mem_append_left others member)).1
    have broken := short_unit half short
    exact .inl ⟨⟨_, broken.1, ends⟩, ⟨_, broken.2, ends⟩⟩

theorem Ended.behind {half after : Option Nat} {p behind : List Char} {change : List Char → List Char}
    (chars : stringChars half p = (stringChars after behind).map change) (skipped : skipString p = skipString behind)
    (ended : Ended after behind) : Ended half p := by
  obtain ⟨⟨b, broken, ends⟩, skip⟩ := ended
  refine ⟨⟨b, ?_, ends⟩, ?_⟩
  · rw [chars, broken]
    rfl
  · rwa [skipped]

theorem Spells.cut {half : Option Nat} {used chars : List Char} (spelled : Spells half used chars) {p q : List Char}
    (same : used = p ++ q) (missing : q ≠ []) : Ended half p := by
  induction spelled generalizing p with
  | close =>
    rcases List.append_eq_cons_iff.mp same.symm with ⟨rfl, -⟩ | ⟨behind, rfl, nothing⟩
    · exact ended_nil none
    · exact absurd (List.append_eq_nil_iff.mp nothing.symm).2 missing
  | first hex half _ ih =>
    rcases ended_unit hex none same with ended | ⟨behind, rfl, later⟩
    · exact ended
    · obtain ⟨chars, skipped⟩ := ih later
      rw [← stringChars_first _ hex half] at chars
      rw [← skipString_unit _ hex] at skipped
      exact ⟨chars, skipped⟩
  | second hex half _ ih =>
    rcases ended_unit hex _ same with ended | ⟨behind, rfl, later⟩
    · exact ended
    · exact (ih later).behind (stringChars_second _ hex half _) (skipString_unit _ hex)
  | unit hex first second _ ih =>
    rcases ended_unit hex _ same with ended | ⟨behind, rfl, later⟩
    · exact ended
    · exact (ih later).behind (stringChars_unit _ hex first second) (skipString_unit _ hex)
  | escape known _ ih =>
    rcases List.append_eq_cons_iff.mp same.symm with ⟨rfl, -⟩ | ⟨p, rfl, tail⟩
    · exact ended_nil none
    rcases List.append_eq_cons_iff.mp tail.symm with ⟨rfl, -⟩ | ⟨behind, rfl, later⟩
    · exact ended_backslash none
    · exact (ih later).behind (string_escape _ known).1 (string_escape _ known).2
  | plain quote backslash printable _ ih =>
    rcases List.append_eq_cons_iff.mp same.symm with ⟨rfl, -⟩ | ⟨behind, rfl, later⟩
    · exact ended_nil none
    · exact (ih later).behind (stringChars_plain quote backslash printable _)
        (skipString_plain quote backslash printable _)

/-! Strings -/

theorem scanString_eq_ok {cs rest : List Char} {text : String} :
    scanString cs = (.ok text, rest) ↔
      ∃ used chars, Spells none used chars ∧ cs = used ++ rest ∧ text = .ofList chars := by
  constructor
  · intro scanned
    rw [scanString] at scanned
    split at scanned
    next chars after taken skipped =>
      cases scanned
      obtain ⟨used, behind, rfl, spelled⟩ := exists_spells none cs taken
      cases skipped.symm.trans (spelled.read behind).2
      exact ⟨used, chars, spelled, rfl, rfl⟩
    all_goals cases scanned
  · rintro ⟨used, chars, spelled, rfl, rfl⟩
    rw [scanString, (spelled.read rest).1, (spelled.read rest).2]

theorem scanString_more {cs rest : List Char} {text : String} (scanned : scanString cs = (.ok text, rest))
    (more : List Char) : scanString (cs ++ more) = (.ok text, rest ++ more) := by
  obtain ⟨used, chars, spelled, rfl, rfl⟩ := scanString_eq_ok.mp scanned
  exact scanString_eq_ok.mpr ⟨used, chars, spelled, List.append_assoc _ _ _, rfl⟩

theorem scanString_cut {p q rest : List Char} {text : String} (scanned : scanString (p ++ q) = (.ok text, rest)) :
    (∃ r, rest = r ++ q ∧ scanString p = (.ok text, r)) ∨
      ∃ flaw, scanString p = (.error flaw, []) ∧ flaw.reading.Ends := by
  obtain ⟨used, chars, spelled, same, rfl⟩ := scanString_eq_ok.mp scanned
  rcases append_cut same.symm with ⟨left, rfl, rfl⟩ | ⟨missing, present, gone⟩
  · exact .inl ⟨left, rfl, scanString_eq_ok.mpr ⟨used, chars, spelled, rfl, rfl⟩⟩
  · obtain ⟨⟨b, broken, ends⟩, ⟨other, passing, -⟩⟩ := spelled.cut gone present
    refine .inr ⟨⟨b, b, some other⟩, ?_, ends⟩
    rw [scanString, broken, passing]

theorem noExponent_inside {c : Char} (quote : c ≠ '"') (backslash : c ≠ '\\') (cs : List Char) :
    noExponent true (c :: cs) = noExponent true cs := by
  rw [noExponent, bne_iff_ne.mpr quote]
  rintro _ _ rfl
  exact absurd rfl backslash

theorem noExponent_unit {a b c d : Char} {unit : Nat} (hex : hexValue a b c d = some unit) (cs : List Char) :
    noExponent true ('\\' :: 'u' :: a :: b :: c :: d :: cs) = noExponent true cs := by
  have digits := hexValue_eq_some hex
  simp only [List.forall_mem_cons] at digits
  obtain ⟨⟨-, first⟩, ⟨-, second⟩, ⟨-, third⟩, ⟨-, fourth⟩, -⟩ := digits
  change noExponent true (a :: b :: c :: d :: cs) = _
  rw [noExponent_inside first.1 first.2, noExponent_inside second.1 second.2, noExponent_inside third.1 third.2,
    noExponent_inside fourth.1 fourth.2]

theorem Spells.noExponent_after {half : Option Nat} {used chars : List Char} (spelled : Spells half used chars)
    {rest : List Char} (plain : noExponent true (used ++ rest)) : noExponent false rest := by
  induction spelled with
  | close => exact plain
  | first hex _ _ ih | second hex _ _ ih | unit hex _ _ _ ih =>
    simp only [List.cons_append, noExponent_unit hex] at plain
    exact ih plain
  | escape _ _ ih => exact ih plain
  | plain quote backslash _ _ ih =>
    rw [List.cons_append, noExponent_inside quote backslash] at plain
    exact ih plain

theorem scanString_plain {cs rest : List Char} {text : String} (plain : noExponent true cs)
    (scanned : scanString cs = (.ok text, rest)) : noExponent false rest ∧ rest <:+ cs := by
  obtain ⟨used, chars, spelled, rfl, -⟩ := scanString_eq_ok.mp scanned
  exact ⟨spelled.noExponent_after plain, List.suffix_append _ _⟩

end Json

end NanAdapter
