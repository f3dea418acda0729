import NanAdapter.Proofs.CutStrings
import NanAdapter.Json.Scan

/-! Scanning a token that breaks off: a word, a number, a string, a name or a colon. -/

namespace NanAdapter

def Doc.IsNumber : Doc φ → Prop
  | .int _ | .real _ => True
  | _ => False

theorem Doc.lift_inj {json other : Json} (same : (json.lift : Doc Break) = other.lift) : json = other := by
  have settled := congrArg (Doc.settle Break.fault) same
  rw [Doc.settle_lift, Doc.settle_lift] at settled
  exact Except.ok.inj settled

theorem Doc.lift_ne_flawed (json : Json) (flaw : Flaw Break) : json.lift ≠ .flawed flaw := by
  intro same
  have settled := congrArg (Doc.settle Break.fault) same
  rw [Doc.settle_lift] at settled
  cases settled

/-! What the end of a text makes of the document before it -/

mutual
inductive Doc.Cut : Json → Doc Break → Prop where
  | flawed {json flaw} (ends : flaw.reading.Ends) : Doc.Cut json (.flawed flaw)
  | number {json doc} (number : json.IsNumber) (other : doc.IsNumber) : Doc.Cut json doc
  | arr {items torn} (cut : Items.Cut items torn) : Doc.Cut (.arr items) (.arr torn)
  | obj {members torn} (cut : Members.Cut members torn) : Doc.Cut (.obj members) (.obj torn)

inductive Items.Cut : Items Empty → Items Break → Prop where
  | here {items flaw} (ends : flaw.reading.Ends) : Items.Cut items (.broken flaw)
  | head {head part rest flaw} (cut : Doc.Cut head part) (ends : flaw.reading.Ends) :
      Items.Cut (.cons head rest) (.cons part (.broken flaw))
  | rest {head rest torn} (cut : Items.Cut rest torn) : Items.Cut (.cons head rest) (.cons head.lift torn)

inductive Members.Cut : Members Empty → Members Break → Prop where
  | here {members flaw} (ends : flaw.reading.Ends) : Members.Cut members (.broken flaw)
  | name {members flaw value rest} (ends : flaw.reading.Ends) : Members.Cut members (.cons (.flawed flaw) value rest)
  | value {key value part rest flaw} (cut : Doc.Cut value part) (ends : flaw.reading.Ends) :
      Members.Cut (.cons (.name key) value rest) (.cons (.name key) part (.broken flaw))
  | rest {key value rest torn} (cut : Members.Cut rest torn) :
      Members.Cut (.cons (.name key) value rest) (.cons (.name key) value.lift torn)
end

namespace Json

/-- What is scanned from the beginning of a text, when all of it is scanned with this result: the same with less behind
it, or something that the end of the text has torn. -/
def Breaks (torn : α → β → Prop) (q : List Char) (value : α) (whole : β) (rest : List Char) (part : β × List Char) :
    Prop :=
  (∃ r, rest = r ++ q ∧ part = (whole, r)) ∨ ∃ other, part = (other, []) ∧ torn value other

theorem Breaks.map {torn : α → β → Prop} {change : α' → γ → Prop} {q rest : List Char} {value : α} {value' : α'}
    {whole : β} {part : β × List Char} (breaks : Breaks torn q value whole rest part) (wrap : β → γ)
    (keeps : ∀ {other}, torn value other → change value' (wrap other)) :
    Breaks change q value' (wrap whole) rest (wrap part.1, part.2) := by
  rcases breaks with ⟨r, rfl, rfl⟩ | ⟨other, rfl, cut⟩
  · exact .inl ⟨r, rfl, rfl⟩
  · exact .inr ⟨_, rfl, keeps cut⟩

/-! Gaps -/

theorem skipGap_append (p q : List Char) :
    skipGap (p ++ q) = if skipGap p = [] then skipGap q else skipGap p ++ q := by
  rw [skipGap, List.dropWhile_append]
  simp only [List.isEmpty_iff]
  rfl

theorem skipGap_suffix (cs : List Char) : skipGap cs <:+ cs := List.dropWhile_suffix _

theorem noExponent_skipGap {cs : List Char} (plain : noExponent false cs) : noExponent false (skipGap cs) := by
  induction cs with
  | nil => exact plain
  | cons c cs ih =>
    rw [skipGap, List.dropWhile_cons]
    split
    next gap =>
      refine ih (noExponent_other ?_ plain)
      rintro rfl
      exact absurd gap (by decide)
    next => exact plain

/-- Gaps are cut off with what is behind them, or the cut is behind what follows them. -/
theorem skipGap_cut {c : Char} {p q inner : List Char} (opens : skipGap (p ++ q) = c :: inner) :
    skipGap p = [] ∨ ∃ inside, skipGap p = c :: inside ∧ inner = inside ++ q := by
  rw [skipGap_append] at opens
  split at opens
  next gap => exact .inl gap
  next =>
    rcases List.append_eq_cons_iff.mp opens with ⟨gap, -⟩ | ⟨inside, here, same⟩
    · exact .inl gap
    · exact .inr ⟨inside, here, same⟩

theorem skipGap_more {c : Char} {cs inner : List Char} (opens : skipGap cs = c :: inner) (more : List Char) :
    skipGap (cs ++ more) = c :: (inner ++ more) := by
  rw [skipGap_append, opens]
  rfl

theorem skipGap_plain {c : Char} {cs rest : List Char} (other : c ≠ '"') (plain : noExponent false cs)
    (opens : skipGap cs = c :: rest) : noExponent false rest ∧ c :: rest <:+ cs := by
  have plain := noExponent_skipGap plain
  have ends := skipGap_suffix cs
  rw [opens] at plain ends
  exact ⟨noExponent_other other plain, ends⟩

theorem noExponent_quote {cs : List Char} (plain : noExponent false ('"' :: cs)) : noExponent true cs := by
  rw [noExponent, Bool.and_eq_true] at plain
  exact plain.2

/-! Words -/

theorem word_eq_ok {letters cs rest : List Char} : word letters cs = .ok rest ↔ cs = letters ++ rest := by
  induction letters generalizing cs with
  | nil =>
    constructor
    · intro scanned
      cases scanned
      rfl
    · rintro rfl
      rfl
  | cons letter letters ih =>
    cases cs with
    | nil => exact iff_of_false nofun nofun
    | cons c cs =>
      rw [word]
      split
      next same => rw [ih, List.cons_append, List.cons.injEq, and_iff_right same]
      next other =>
        refine iff_of_false nofun fun same => other ?_
        exact (List.cons.inj same).1

theorem word_cut {letters p q : List Char} (missing : q ≠ []) (same : letters = p ++ q) :
    word letters p = .error (.before [] .endInValue) := by
  induction p generalizing letters with
  | nil =>
    obtain ⟨letter, letters, rfl⟩ := List.exists_cons_of_ne_nil missing
    subst same
    rfl
  | cons c p ih =>
    subst same
    rw [List.cons_append, word, if_pos rfl]
    exact ih rfl

/-! Numbers -/

/-- The document of a number, if it is not too large. -/
def Numeral.json? (n : Numeral) : Option Json :=
  match n.integer? with
  | some value => some (.int value)
  | none => n.real?.map .real

theorem Numeral.json?_of_integer? {n : Numeral} {value : Int} (small : n.integer? = some value) :
    n.json? = some (.int value) := by
  rw [json?, small]

theorem Numeral.json?_of_none {n : Numeral} (none : n.integer? = none) : n.json? = n.real?.map .real := by
  rw [json?, none]

theorem Numeral.json?_isSome {n : Numeral} (readable : n.real?.isSome) : ∃ json, n.json? = some json := by
  obtain ⟨value, large⟩ := Option.isSome_iff_exists.mp readable
  cases small : n.integer? with
  | some value => exact ⟨_, json?_of_integer? small⟩
  | none => exact ⟨.real value, by rw [json?_of_none small, large, Option.map_some]⟩

theorem Numeral.real?_of_json? {n : Numeral} {json : Json} (digits : Digits n.whole) (shown : n.json? = some json) :
    n.real?.isSome := by
  cases small : n.integer? with
  | some value => exact real?_of_integer? digits.all small
  | none =>
    rw [json?_of_none small] at shown
    obtain ⟨value, large, -⟩ := Option.map_eq_some_iff.mp shown
    rw [large]
    rfl

theorem Numeral.isNumber_of_json? {n : Numeral} {json : Json} (shown : n.json? = some json) :
    json.IsNumber ∧ (json.lift : Doc Break).IsNumber := by
  cases small : n.integer? with
  | some value =>
    rw [json?_of_integer? small] at shown
    cases shown
    exact ⟨trivial, trivial⟩
  | none =>
    rw [json?_of_none small] at shown
    obtain ⟨value, -, rfl⟩ := Option.map_eq_some_iff.mp shown
    exact ⟨trivial, trivial⟩

theorem scanNumber_eq_lift {cs rest : List Char} {json : Json} :
    scanNumber cs = (json.lift, rest) ↔ ∃ n, scanNumeral cs = .ok (n, rest) ∧ n.json? = some json := by
  rw [scanNumber]
  constructor
  · intro scanned
    cases taken : scanNumeral cs with
    | error flaw =>
      rw [taken] at scanned
      exact absurd (congrArg Prod.fst scanned).symm (Doc.lift_ne_flawed json flaw)
    | ok found =>
      obtain ⟨n, after⟩ := found
      rw [taken] at scanned
      cases small : n.integer? with
      | some value =>
        simp only [small] at scanned
        obtain ⟨same, rfl⟩ := Prod.mk.inj scanned
        have found : Doc.int value = json := Doc.lift_inj same
        exact ⟨n, rfl, found ▸ Numeral.json?_of_integer? small⟩
      | none =>
        cases large : n.real? with
        | some value =>
          simp only [small, large] at scanned
          obtain ⟨same, rfl⟩ := Prod.mk.inj scanned
          have found : Doc.real value = json := Doc.lift_inj same
          refine ⟨n, rfl, ?_⟩
          rw [Numeral.json?_of_none small, large, Option.map_some, found]
        | none =>
          simp only [small, large] at scanned
          exact absurd (congrArg Prod.fst scanned).symm (Doc.lift_ne_flawed json _)
  · rintro ⟨n, taken, shown⟩
    rw [taken]
    cases small : n.integer? with
    | some value =>
      rw [Numeral.json?_of_integer? small] at shown
      cases shown
      simp only [small, Doc.lift]
    | none =>
      rw [Numeral.json?_of_none small] at shown
      obtain ⟨value, large, rfl⟩ := Option.map_eq_some_iff.mp shown
      simp only [small, large, Doc.lift]

theorem scanNumber_more {cs rest : List Char} {json : Json} (scanned : scanNumber cs = (json.lift, rest))
    (present : rest ≠ []) (more : List Char) : scanNumber (cs ++ more) = (json.lift, rest ++ more) := by
  obtain ⟨n, taken, shown⟩ := scanNumber_eq_lift.mp scanned
  exact scanNumber_eq_lift.mpr ⟨n, scanNumeral_more present more taken, shown⟩

theorem scanNumber_plain {cs rest : List Char} {json : Json} (plain : noExponent false cs)
    (scanned : scanNumber cs = (json.lift, rest)) : noExponent false rest ∧ rest <:+ cs := by
  obtain ⟨n, taken, -⟩ := scanNumber_eq_lift.mp scanned
  exact (scanNumeral_plain plain taken).2.2

theorem scanNumber_cut {p q rest : List Char} {json : Json} (plain : noExponent false (p ++ q))
    (scanned : scanNumber (p ++ q) = (json.lift, rest)) : Breaks Doc.Cut q json json.lift rest (scanNumber p) := by
  obtain ⟨n, taken, shown⟩ := scanNumber_eq_lift.mp scanned
  obtain ⟨unscaled, digits, -⟩ := scanNumeral_plain plain taken
  rcases scanNumeral_cut taken unscaled with ⟨r, rfl, whole⟩ | ⟨flaw, broken, ends⟩ | ⟨m, part, fewer⟩
  · exact .inl ⟨r, rfl, scanNumber_eq_lift.mpr ⟨n, whole, shown⟩⟩
  · refine .inr ⟨.flawed flaw, ?_, .flawed ends⟩
    rw [scanNumber, broken]
  · obtain ⟨other, less⟩ := Numeral.json?_isSome (fewer (Numeral.real?_of_json? digits shown))
    exact .inr ⟨other.lift, scanNumber_eq_lift.mpr ⟨m, part, less⟩,
      .number (Numeral.isNumber_of_json? shown).1 (Numeral.isNumber_of_json? less).2⟩

/-! Values other than arrays and objects -/

/-- The words that are values. -/
inductive Word : List Char → Json → Prop where
  | null : Word "null".toList .null
  | true : Word "true".toList (.bool true)
  | false : Word "false".toList (.bool false)

theorem scanWord_eq_lift {letters cs rest : List Char} {known json : Json} :
    scanWord letters known.lift cs = (json.lift, rest) ↔ cs = letters ++ rest ∧ json = known := by
  rw [scanWord]
  split
  next after taken =>
    obtain rfl := word_eq_ok.mp taken
    constructor
    · intro scanned
      obtain ⟨same, rfl⟩ := Prod.mk.inj scanned
      exact ⟨rfl, (Doc.lift_inj same).symm⟩
    · rintro ⟨same, rfl⟩
      rw [List.append_cancel_left same]
  next fault broken =>
    refine iff_of_false (fun scanned => Doc.lift_ne_flawed json _ (congrArg Prod.fst scanned).symm) ?_
    rintro ⟨same, -⟩
    rw [word_eq_ok.mpr same] at broken
    cases broken

theorem scanWord_cut {letters p q rest : List Char} {known : Json} (same : p ++ q = letters ++ rest) :
    Breaks Doc.Cut q known known.lift rest (scanWord letters known.lift p) := by
  rcases append_cut same.symm with ⟨left, rfl, rfl⟩ | ⟨missing, present, gone⟩
  · exact .inl ⟨left, rfl, scanWord_eq_lift.mpr ⟨rfl, rfl⟩⟩
  · refine .inr ⟨.flawed ⟨.before [] .endInValue, .within p .noValue, some (.before [] .endInValue)⟩, ?_, .flawed rfl⟩
    rw [scanWord, word_cut present gone]

theorem scanScalar_word {letters : List Char} {json : Json} (word : Word letters json) {c : Char} (cs : List Char)
    (head : letters.head? = some c) : scanScalar (c :: cs) = scanWord letters json.lift (c :: cs) := by
  cases word with
  | null | true | false =>
    cases head
    rfl

theorem scanScalar_number {c : Char} (start : c = '-' ∨ c.isDigit = true) (cs : List Char) :
    scanScalar (c :: cs) = scanNumber (c :: cs) := by
  have other {d : Char} (sign : d ≠ '-') (letter : d.isDigit = false) : c ≠ d := by
    rintro rfl
    rcases start with minus | digit
    · exact sign minus
    · rw [letter] at digit
      cases digit
  rw [scanScalar.eq_def]
  split
  iterate 4
    next same => exact absurd (List.cons.inj same).1 (other (by decide) (by decide))
  next =>
    rw [if_pos]
    simpa using start

theorem scanScalar_cases {cs rest : List Char} {json : Json} (scanned : scanScalar cs = (json.lift, rest)) :
    (∃ inside text, cs = '"' :: inside ∧ json = .str text ∧ scanString inside = (.ok text, rest)) ∨
    (∃ letters, Word letters json ∧ cs = letters ++ rest) ∨
    ∃ c behind, cs = c :: behind ∧ (c = '-' ∨ c.isDigit = true) ∧ scanNumber cs = (json.lift, rest) := by
  have known {letters : List Char} {found : Json} (word : Word letters found)
      (scanned : scanWord letters found.lift cs = (json.lift, rest)) :
      ∃ letters, Word letters json ∧ cs = letters ++ rest := by
    obtain ⟨same, rfl⟩ := scanWord_eq_lift.mp scanned
    exact ⟨letters, word, same⟩
  rw [scanScalar.eq_def] at scanned
  split at scanned
  next inside =>
    split at scanned
    next text after taken =>
      obtain ⟨same, rfl⟩ := Prod.mk.inj scanned
      have found : Doc.str text = json := Doc.lift_inj same
      exact .inl ⟨inside, text, rfl, found.symm, taken⟩
    next => exact absurd (congrArg Prod.fst scanned).symm (Doc.lift_ne_flawed json _)
  next => exact .inr (.inl (known .null scanned))
  next => exact .inr (.inl (known .true scanned))
  next => exact .inr (.inl (known .false scanned))
  next =>
    split at scanned
    next start =>
      cases cs with
      | nil => cases start
      | cons c behind => exact .inr (.inr ⟨c, behind, rfl, by simpa using start, scanned⟩)
    next => exact absurd (congrArg Prod.fst scanned).symm (Doc.lift_ne_flawed json _)

section Scalars
variable {json : Json} {rest : List Char}

theorem Word.present {letters : List Char} (word : Word letters json) : ∃ c tail, letters = c :: tail := by
  cases word with
  | null | true | false => exact ⟨_, _, rfl⟩

theorem scanScalar_more {cs : List Char} (scanned : scanScalar cs = (json.lift, rest)) (present : rest ≠ [])
    (more : List Char) : scanScalar (cs ++ more) = (json.lift, rest ++ more) := by
  rcases scanScalar_cases scanned with ⟨inside, text, rfl, rfl, taken⟩ | ⟨letters, word, rfl⟩ |
    ⟨c, behind, rfl, start, taken⟩
  · rw [List.cons_append, scanScalar, scanString_more taken]
    rfl
  · obtain ⟨c, tail, rfl⟩ := word.present
    exact (scanScalar_word word _ rfl).trans (scanWord_eq_lift.mpr ⟨by simp, rfl⟩)
  · exact (scanScalar_number start _).trans (scanNumber_more taken present more)

theorem scanScalar_plain {cs : List Char} (plain : noExponent false cs) (scanned : scanScalar cs = (json.lift, rest)) :
    noExponent false rest ∧ rest <:+ cs := by
  rcases scanScalar_cases scanned with ⟨inside, text, rfl, rfl, taken⟩ | ⟨letters, word, rfl⟩ |
    ⟨c, behind, rfl, start, taken⟩
  · obtain ⟨plain, ends⟩ := scanString_plain (noExponent_quote plain) taken
    exact ⟨plain, ends.trans (List.suffix_cons _ _)⟩
  · refine ⟨?_, List.suffix_append _ _⟩
    cases word with
    | null => exact plain
    | true => exact plain
    | false => exact plain
  · exact scanNumber_plain plain taken

theorem scanScalar_cut {p q : List Char} (plain : noExponent false (p ++ q))
    (scanned : scanScalar (p ++ q) = (json.lift, rest)) : Breaks Doc.Cut q json json.lift rest (scanScalar p) := by
  cases p with
  | nil => exact .inr ⟨_, rfl, .flawed rfl⟩
  | cons c p =>
    rcases scanScalar_cases scanned with ⟨inside, text, same, rfl, taken⟩ | ⟨letters, word, same⟩ |
      ⟨d, behind, same, start, taken⟩
    · cases same
      rcases scanString_cut taken with ⟨r, rfl, whole⟩ | ⟨flaw, broken, ends⟩
      · refine .inl ⟨r, rfl, ?_⟩
        rw [scanScalar, whole]
        rfl
      · refine .inr ⟨.flawed flaw, ?_, .flawed ends⟩
        rw [scanScalar, broken]
    · obtain ⟨d, tail, rfl⟩ := word.present
      have first : d = c := (List.cons.inj same).1.symm
      rw [scanScalar_word word p (congrArg some first)]
      exact scanWord_cut same
    · cases same
      rw [scanScalar_number start]
      exact scanNumber_cut plain taken

end Scalars

/-! Names and colons -/

theorem scanName_eq_name {cs rest : List Char} {key : String} :
    scanName cs = (.name key, rest) ↔ ∃ inside, cs = '"' :: inside ∧ scanString inside = (.ok key, rest) := by
  constructor
  · intro scanned
    rw [scanName.eq_def] at scanned
    split at scanned
    next inside =>
      refine ⟨inside, rfl, ?_⟩
      split at scanned <;> cases scanned
      next taken => exact taken
    all_goals cases scanned
  · rintro ⟨inside, rfl, taken⟩
    rw [scanName, taken]

theorem scanName_more {cs rest : List Char} {key : String} (scanned : scanName cs = (.name key, rest))
    (more : List Char) : scanName (cs ++ more) = (.name key, rest ++ more) := by
  obtain ⟨inside, rfl, taken⟩ := scanName_eq_name.mp scanned
  exact scanName_eq_name.mpr ⟨inside ++ more, rfl, scanString_more taken more⟩

theorem scanName_plain {cs rest : List Char} {key : String} (plain : noExponent false cs)
    (scanned : scanName cs = (.name key, rest)) : noExponent false rest ∧ rest <:+ cs := by
  obtain ⟨inside, rfl, taken⟩ := scanName_eq_name.mp scanned
  obtain ⟨plain, ends⟩ := scanString_plain (noExponent_quote plain) taken
  exact ⟨plain, ends.trans (List.suffix_cons _ _)⟩

theorem scanName_cut {p q rest : List Char} {key : String} (scanned : scanName (p ++ q) = (.name key, rest)) :
    (∃ r, rest = r ++ q ∧ scanName p = (.name key, r)) ∨
      ∃ flaw, scanName p = (.flawed flaw, []) ∧ flaw.reading.Ends := by
  obtain ⟨inside, same, taken⟩ := scanName_eq_name.mp scanned
  cases p with
  | nil => exact .inr ⟨_, rfl, rfl⟩
  | cons c p =>
    cases same
    rcases scanString_cut taken with ⟨r, rfl, whole⟩ | ⟨flaw, broken, ends⟩
    · exact .inl ⟨r, rfl, scanName_eq_name.mpr ⟨p, rfl, whole⟩⟩
    · refine .inr ⟨flaw, ?_, ends⟩
      rw [scanName, broken]

theorem colon_eq_ok {cs rest : List Char} : colon cs = .ok rest ↔ skipGap cs = ':' :: rest := by
  rw [colon]
  split
  next after same => rw [same, Except.ok.injEq, List.cons.injEq, and_iff_right rfl]
  next other => exact iff_of_false nofun (other _)

/-- Only gaps are left. -/
theorem colon_gap {p : List Char} (gap : skipGap p = []) : ∃ b, colon p = .error b ∧ b.Ends := by
  refine ⟨.within [] .endInObject, ?_, rfl⟩
  rw [colon, gap]
  rfl

theorem colon_cut {p q rest : List Char} (taken : colon (p ++ q) = .ok rest) :
    (∃ r, rest = r ++ q ∧ colon p = .ok r) ∨ ∃ b, colon p = .error b ∧ b.Ends := by
  rcases skipGap_cut (colon_eq_ok.mp taken) with gap | ⟨r, here, rfl⟩
  · exact .inr (colon_gap gap)
  · exact .inl ⟨r, rfl, colon_eq_ok.mpr here⟩

theorem colon_more {cs rest : List Char} (taken : colon cs = .ok rest) (more : List Char) :
    colon (cs ++ more) = .ok (rest ++ more) :=
  colon_eq_ok.mpr (skipGap_more (colon_eq_ok.mp taken) more)

theorem colon_plain {cs rest : List Char} (plain : noExponent false cs) (taken : colon cs = .ok rest) :
    noExponent false rest ∧ rest <:+ cs := by
  obtain ⟨plain, ends⟩ := skipGap_plain (by decide) plain (colon_eq_ok.mp taken)
  exact ⟨plain, (List.suffix_cons _ _).trans ends⟩

end Json

end NanAdapter
