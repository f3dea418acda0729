import NanAdapter.Proofs.CutTokens

/-! Scanning a text that breaks off. What was scanned before the cut is as it was, and where the text is cut, the
document is torn. What follows a document does not matter. -/

namespace NanAdapter

/-- Neither an array nor an object. -/
def Doc.IsFlat : Doc φ → Prop
  | .arr _ | .obj _ => False
  | _ => True

namespace Json

/-! Where only gaps are left -/

section Gaps
variable (fuel room : Nat) {p : List Char} (gap : skipGap p = [])
include gap

theorem scanValue_gap : ∃ flaw, scanValue fuel room p = (.flawed flaw, []) ∧ flaw.reading.Ends := by
  cases fuel with
  | zero => exact ⟨_, rfl, rfl⟩
  | succ fuel =>
    refine ⟨.dead (.within [] .endInValue), ?_, rfl⟩
    rw [scanValue, gap]
    rfl

theorem scanItems_gap (first : Bool) :
    ∃ flaw, scanItems fuel room first p = (.broken flaw, []) ∧ flaw.reading.Ends := by
  cases fuel with
  | zero => exact ⟨_, rfl, rfl⟩
  | succ fuel =>
    refine ⟨.dead (.within [] .endInArray), ?_, rfl⟩
    rw [scanItems, gap]
    rfl

theorem scanMembers_gap (first : Bool) :
    ∃ flaw, scanMembers fuel room first p = (.broken flaw, []) ∧ flaw.reading.Ends := by
  cases fuel with
  | zero => exact ⟨_, rfl, rfl⟩
  | succ fuel =>
    refine ⟨.dead (.within [] .endInObject), ?_, rfl⟩
    rw [scanMembers, gap]
    rfl

end Gaps

/-! Where the next element or member starts -/

/-- The next element or member starts there: it is the first one, or a comma is in front. -/
structure Starts (first : Bool) (close : Char) (cs token : List Char) : Prop where
  opens : ∃ c inner, skipGap cs = c :: inner ∧ c ≠ close ∧ (first = true ∨ c = ',') ∧
    token = if first then c :: inner else skipGap inner

theorem Starts.cut {first : Bool} {close : Char} {p q token : List Char} (starts : Starts first close (p ++ q) token) :
    skipGap p = [] ∨ ∃ part, Starts first close p part ∧ (part = [] ∨ token = part ++ q) := by
  obtain ⟨c, inner, opens, other, separated, rfl⟩ := starts
  rcases skipGap_cut opens with gap | ⟨inside, here, rfl⟩
  · exact .inl gap
  · refine .inr ⟨_, ⟨c, inside, here, other, separated, rfl⟩, ?_⟩
    cases first with
    | true => exact .inr rfl
    | false =>
      change skipGap inside = [] ∨ skipGap (inside ++ q) = skipGap inside ++ q
      rw [skipGap_append]
      split
      next gap => exact .inl gap
      next => exact .inr rfl

theorem Starts.more {first : Bool} {close : Char} {cs token : List Char} (starts : Starts first close cs token)
    (present : token ≠ []) (more : List Char) : Starts first close (cs ++ more) (token ++ more) := by
  obtain ⟨c, inner, opens, other, separated, rfl⟩ := starts
  refine ⟨c, inner ++ more, skipGap_more opens more, other, separated, ?_⟩
  cases first with
  | true => rfl
  | false =>
    change skipGap inner ≠ [] at present
    change _ = skipGap (inner ++ more)
    rw [skipGap_append, if_neg present]
    rfl

theorem Starts.plain {first : Bool} {close : Char} {cs token : List Char} (starts : Starts first close cs token)
    (plain : noExponent false cs) : noExponent false token ∧ token <:+ cs := by
  obtain ⟨c, inner, opens, other, separated, rfl⟩ := starts
  have plain := noExponent_skipGap plain
  have ends := skipGap_suffix cs
  rw [opens] at plain ends
  cases first with
  | true => exact ⟨plain, ends⟩
  | false =>
    obtain rfl : c = ',' := separated.resolve_left nofun
    exact ⟨noExponent_skipGap (noExponent_other (by decide) plain),
      (skipGap_suffix inner).trans ((List.suffix_cons _ _).trans ends)⟩

/-! Values -/

theorem scanScalar_flat {cs rest : List Char} {json : Json} (scanned : scanScalar cs = (json.lift, rest)) :
    json.IsFlat := by
  rcases scanScalar_cases scanned with ⟨_, _, -, rfl, -⟩ | ⟨_, word, -⟩ | ⟨_, _, -, -, taken⟩
  · trivial
  · cases word <;> trivial
  · obtain ⟨n, -, shown⟩ := scanNumber_eq_lift.mp taken
    have number := (Numeral.isNumber_of_json? shown).1
    cases json with
    | arr _ | obj _ => exact number
    | _ => trivial

theorem Items.lift_ne_broken (items : Items Empty) (flaw : Flaw Break) : items.lift ≠ .broken flaw := by
  cases items with
  | broken flaw => exact flaw.reading.elim
  | done | cons => exact nofun

theorem Members.lift_ne_broken (members : Members Empty) (flaw : Flaw Break) : members.lift ≠ .broken flaw := by
  match members with
  | .broken flaw => exact flaw.reading.elim
  | .cons (.flawed flaw) _ _ => exact flaw.reading.elim
  | .done | .cons (.name _) _ _ => exact nofun

theorem scanScalar_head {c : Char} {inner rest : List Char} {json : Json}
    (scanned : scanScalar (c :: inner) = (json.lift, rest)) : c ≠ '[' ∧ c ≠ '\x7b' := by
  constructor
  · rintro rfl
    exact Doc.lift_ne_flawed json _ (congrArg Prod.fst scanned).symm
  · rintro rfl
    exact Doc.lift_ne_flawed json _ (congrArg Prod.fst scanned).symm

section Values
variable {fuel room : Nat} {cs rest : List Char}

theorem scanValue_bracket {inner : List Char} (opens : skipGap cs = '[' :: inner) (deep : 0 < room) :
    scanValue (fuel + 1) room cs =
      (.arr (scanItems fuel (room - 1) true inner).1, (scanItems fuel (room - 1) true inner).2) := by
  rw [scanValue, opens]
  change (Doc.arr (if room = 0 then _ else _), _) = _
  rw [if_neg (Nat.ne_of_gt deep)]

theorem scanValue_brace {inner : List Char} (opens : skipGap cs = '\x7b' :: inner) (deep : 0 < room) :
    scanValue (fuel + 1) room cs =
      (.obj (scanMembers fuel (room - 1) true inner).1, (scanMembers fuel (room - 1) true inner).2) := by
  rw [scanValue, opens]
  change (Doc.obj (if room = 0 then _ else _), _) = _
  rw [if_neg (Nat.ne_of_gt deep)]

theorem scanValue_scalar {c : Char} {inner : List Char} (starts : skipGap cs = c :: inner)
    (other : c ≠ '[' ∧ c ≠ '\x7b') : scanValue (fuel + 1) room cs = scanScalar (c :: inner) := by
  rw [scanValue]
  split
  next opens => exact absurd (List.cons.inj (starts.symm.trans opens)).1 other.1
  next opens => exact absurd (List.cons.inj (starts.symm.trans opens)).1 other.2
  next => rw [starts]

theorem scanValue_arr {items : Items Empty} (scanned : scanValue (fuel + 1) room cs = (.arr items.lift, rest)) :
    0 < room ∧ ∃ inner, skipGap cs = '[' :: inner ∧ scanItems fuel (room - 1) true inner = (items.lift, rest) := by
  rw [scanValue] at scanned
  split at scanned
  next inner opens =>
    obtain ⟨same, rfl⟩ := Prod.mk.inj scanned
    split at same
    next => exact absurd (Doc.arr.inj same).symm (Items.lift_ne_broken items _)
    next deep => exact ⟨Nat.pos_of_ne_zero deep, inner, opens, Prod.ext (Doc.arr.inj same) rfl⟩
  next => cases scanned
  next => exact absurd (@scanScalar_flat _ _ (.arr items) scanned) id

theorem scanValue_obj {members : Members Empty} (scanned : scanValue (fuel + 1) room cs = (.obj members.lift, rest)) :
    0 < room ∧ ∃ inner, skipGap cs = '\x7b' :: inner ∧
      scanMembers fuel (room - 1) true inner = (members.lift, rest) := by
  rw [scanValue] at scanned
  split at scanned
  next => cases scanned
  next inner opens =>
    obtain ⟨same, rfl⟩ := Prod.mk.inj scanned
    split at same
    next => exact absurd (Doc.obj.inj same).symm (Members.lift_ne_broken members _)
    next deep => exact ⟨Nat.pos_of_ne_zero deep, inner, opens, Prod.ext (Doc.obj.inj same) rfl⟩
  next => exact absurd (@scanScalar_flat _ _ (.obj members) scanned) id

theorem scanValue_flat {json : Json} (scanned : scanValue (fuel + 1) room cs = (json.lift, rest)) (flat : json.IsFlat) :
    ∃ c inner, skipGap cs = c :: inner ∧ (c ≠ '[' ∧ c ≠ '\x7b') ∧ scanScalar (c :: inner) = (json.lift, rest) := by
  have nested {doc : Doc Break} {after : List Char} (same : (doc, after) = (json.lift, rest))
      (nested : ¬ doc.IsFlat) : False := by
    apply nested
    rw [(Prod.mk.inj same).1]
    cases json with
    | arr _ | obj _ => exact flat
    | flawed flaw => exact flaw.reading.elim
    | _ => trivial
  rw [scanValue] at scanned
  split at scanned
  next => exact absurd (nested scanned id) id
  next => exact absurd (nested scanned id) id
  next =>
    cases starts : skipGap cs with
    | nil =>
      rw [starts] at scanned
      exact absurd (congrArg Prod.fst scanned).symm (Doc.lift_ne_flawed json _)
    | cons c inner =>
      rw [starts] at scanned
      exact ⟨c, inner, rfl, scanScalar_head scanned, scanned⟩

end Values

/-! Elements and members -/

section Entries
variable {fuel room : Nat} {first : Bool} {cs token rest : List Char}

/-- Something else than the closing bracket is there. -/
private theorem scanItems_open {c : Char} {inner : List Char} (opens : skipGap cs = c :: inner) (other : c ≠ ']')
    (chosen : token = if first then c :: inner else skipGap inner) :
    scanItems (fuel + 1) room first cs =
      if first = true ∨ c = ',' then
        if token.head? = some ']' then
          (.cons (.flawed (.dead (.within token .commaAtEnd))) (.broken (.dead (.within token .commaAtEnd))), [])
        else
          (.cons (scanValue fuel room token).1 (scanItems fuel room false (scanValue fuel room token).2).1,
            (scanItems fuel room false (scanValue fuel room token).2).2)
      else (.broken (.dead (unfit (c :: inner) .noCommaInArray .endInArray)), []) := by
  subst chosen
  rw [scanItems]
  split
  next closes =>
    rw [opens] at closes
    exact absurd (List.cons.inj closes).1 other
  next =>
    have present : c :: inner ≠ [] ∧ (first = true ∨ (c :: inner).head? = some ',') ↔ first = true ∨ c = ',' := by
      simp
    rw [opens]
    simp only [present]
    rfl

/-- The element is scanned, and then the others. -/
theorem scanItems_start (starts : Starts first ']' cs token) (unclosed : token.head? ≠ some ']') :
    scanItems (fuel + 1) room first cs =
      (.cons (scanValue fuel room token).1 (scanItems fuel room false (scanValue fuel room token).2).1,
        (scanItems fuel room false (scanValue fuel room token).2).2) := by
  obtain ⟨c, inner, opens, other, separated, rfl⟩ := starts
  rw [scanItems_open opens other rfl, if_pos separated, if_neg unclosed]

theorem scanItems_close (closes : skipGap cs = ']' :: rest) : scanItems (fuel + 1) room first cs = (.done, rest) := by
  rw [scanItems, closes]
  rfl

/-- All that scanning elements does: it breaks, it comes to the end of the array, or it scans an element, a broken one
where none can be read, and then the others. -/
theorem scanItems_cases {items : Items Break} (scanned : scanItems (fuel + 1) room first cs = (items, rest)) :
    (∃ flaw, items = .broken flaw) ∨ (items = .done ∧ skipGap cs = ']' :: rest) ∨
    (∃ flaw others, items = .cons (.flawed flaw) others) ∨
    ∃ token head between others, items = .cons head others ∧ Starts first ']' cs token ∧ token.head? ≠ some ']' ∧
      scanValue fuel room token = (head, between) ∧ scanItems fuel room false between = (others, rest) := by
  cases opens : skipGap cs with
  | nil =>
    obtain ⟨flaw, broken, -⟩ := scanItems_gap (fuel + 1) room opens first
    cases scanned.symm.trans broken
    exact .inl ⟨_, rfl⟩
  | cons c inner =>
    by_cases closes : c = ']'
    · subst closes
      cases scanned.symm.trans (scanItems_close opens)
      exact .inr (.inl ⟨rfl, rfl⟩)
    · obtain ⟨token, chosen⟩ : ∃ token, token = if first then c :: inner else skipGap inner := ⟨_, rfl⟩
      rw [scanItems_open opens closes chosen] at scanned
      split at scanned
      next separated =>
        split at scanned
        next =>
          cases scanned
          exact .inr (.inr (.inl ⟨_, _, rfl⟩))
        next unclosed =>
          obtain ⟨rfl, rfl⟩ := Prod.mk.inj scanned
          have starts : Starts first ']' cs token := ⟨c, inner, opens, closes, separated, chosen⟩
          exact .inr (.inr (.inr ⟨token, _, _, _, rfl, starts, unclosed, rfl, rfl⟩))
      next =>
        cases scanned
        exact .inl ⟨_, rfl⟩

theorem scanItems_done (scanned : scanItems (fuel + 1) room first cs = (.done, rest)) : skipGap cs = ']' :: rest := by
  rcases scanItems_cases scanned with ⟨_, broken⟩ | ⟨-, closes⟩ | ⟨_, _, same⟩ | ⟨_, _, _, _, same, -⟩
  · cases broken
  · exact closes
  · cases same
  · cases same

theorem scanItems_cons {head : Json} {items : Items Empty}
    (scanned : scanItems (fuel + 1) room first cs = (.cons head.lift items.lift, rest)) :
    ∃ token between, Starts first ']' cs token ∧ token.head? ≠ some ']' ∧
      scanValue fuel room token = (head.lift, between) ∧ scanItems fuel room false between = (items.lift, rest) := by
  rcases scanItems_cases scanned with ⟨_, broken⟩ | ⟨same, -⟩ | ⟨flaw, _, same⟩ |
    ⟨token, _, between, _, same, starts, unclosed, here, later⟩
  · cases broken
  · cases same
  · exact absurd (Items.cons.inj same).1 (Doc.lift_ne_flawed head flaw)
  · obtain ⟨rfl, rfl⟩ := Items.cons.inj same
    exact ⟨token, between, starts, unclosed, here, later⟩

/-- Something else than the closing brace is there. -/
private theorem scanMembers_open {c : Char} {inner : List Char} (opens : skipGap cs = c :: inner) (other : c ≠ '\x7d') :
    scanMembers (fuel + 1) room first cs =
      if first = true ∨ c = ',' then
        let (key, behind) := scanName (if first then c :: inner else skipGap inner)
        match colon behind with
        | .ok start =>
          (.cons key (scanValue fuel room start).1 (scanMembers fuel room false (scanValue fuel room start).2).1,
            (scanMembers fuel room false (scanValue fuel room start).2).2)
        | .error fault => (.cons key (.flawed (.dead fault)) (.broken (.dead fault)), [])
      else (.broken (.dead (unfit (c :: inner) .noCommaInObject .endInObject)), []) := by
  rw [scanMembers]
  split
  next closes =>
    rw [opens] at closes
    exact absurd (List.cons.inj closes).1 other
  next =>
    have present : c :: inner ≠ [] ∧ (first = true ∨ (c :: inner).head? = some ',') ↔ first = true ∨ c = ',' := by
      simp
    rw [opens]
    simp only [present]
    rfl

theorem scanMembers_name {key : String} {behind start : List Char} (starts : Starts first '\x7d' cs token)
    (named : scanName token = (.name key, behind)) (follows : colon behind = .ok start) :
    scanMembers (fuel + 1) room first cs =
      (.cons (.name key) (scanValue fuel room start).1 (scanMembers fuel room false (scanValue fuel room start).2).1,
        (scanMembers fuel room false (scanValue fuel room start).2).2) := by
  obtain ⟨c, inner, opens, other, separated, rfl⟩ := starts
  rw [scanMembers_open opens other, if_pos separated, named]
  dsimp only
  rw [follows]

theorem scanMembers_torn {key : Key Break} {behind : List Char} {fault : Break} (starts : Starts first '\x7d' cs token)
    (named : scanName token = (key, behind)) (torn : colon behind = .error fault) :
    scanMembers (fuel + 1) room first cs = (.cons key (.flawed (.dead fault)) (.broken (.dead fault)), []) := by
  obtain ⟨c, inner, opens, other, separated, rfl⟩ := starts
  rw [scanMembers_open opens other, if_pos separated, named]
  dsimp only
  rw [torn]

theorem scanMembers_close (closes : skipGap cs = '\x7d' :: rest) :
    scanMembers (fuel + 1) room first cs = (.done, rest) := by
  rw [scanMembers, closes]
  rfl

/-- All that scanning members does, as for elements. -/
theorem scanMembers_cases {members : Members Break} (scanned : scanMembers (fuel + 1) room first cs = (members, rest)) :
    (∃ flaw, members = .broken flaw) ∨ (members = .done ∧ skipGap cs = '\x7d' :: rest) ∨
    (∃ key flaw others, members = .cons key (.flawed flaw) others) ∨
    ∃ token key behind start value between others, members = .cons key value others ∧ Starts first '\x7d' cs token ∧
      scanName token = (key, behind) ∧ colon behind = .ok start ∧ scanValue fuel room start = (value, between) ∧
      scanMembers fuel room false between = (others, rest) := by
  cases opens : skipGap cs with
  | nil =>
    obtain ⟨flaw, broken, -⟩ := scanMembers_gap (fuel + 1) room opens first
    cases scanned.symm.trans broken
    exact .inl ⟨_, rfl⟩
  | cons c inner =>
    by_cases closes : c = '\x7d'
    · subst closes
      cases scanned.symm.trans (scanMembers_close opens)
      exact .inr (.inl ⟨rfl, rfl⟩)
    · rw [scanMembers_open opens closes] at scanned
      split at scanned
      next separated =>
        dsimp only at scanned
        split at scanned
        next start follows =>
          obtain ⟨rfl, rfl⟩ := Prod.mk.inj scanned
          have starts : Starts first '\x7d' cs (if first then c :: inner else skipGap inner) :=
            ⟨c, inner, opens, closes, separated, rfl⟩
          exact .inr (.inr (.inr ⟨_, _, _, start, _, _, _, rfl, starts, rfl, follows, rfl, rfl⟩))
        next =>
          cases scanned
          exact .inr (.inr (.inl ⟨_, _, _, rfl⟩))
      next =>
        cases scanned
        exact .inl ⟨_, rfl⟩

theorem scanMembers_done (scanned : scanMembers (fuel + 1) room first cs = (.done, rest)) :
    skipGap cs = '\x7d' :: rest := by
  rcases scanMembers_cases scanned with ⟨_, broken⟩ | ⟨-, closes⟩ | ⟨_, _, _, same⟩ | ⟨_, _, _, _, _, _, _, same, -⟩
  · cases broken
  · exact closes
  · cases same
  · cases same

theorem scanMembers_cons {key : String} {value : Json} {members : Members Empty}
    (scanned : scanMembers (fuel + 1) room first cs = (.cons (.name key) value.lift members.lift, rest)) :
    ∃ token behind start between, Starts first '\x7d' cs token ∧ scanName token = (.name key, behind) ∧
      colon behind = .ok start ∧ scanValue fuel room start = (value.lift, between) ∧
      scanMembers fuel room false between = (members.lift, rest) := by
  rcases scanMembers_cases scanned with ⟨_, broken⟩ | ⟨same, -⟩ | ⟨_, flaw, _, same⟩ |
    ⟨token, _, behind, start, _, between, _, same, starts, named, follows, here, later⟩
  · cases broken
  · cases same
  · exact absurd (Members.cons.inj same).2.1 (Doc.lift_ne_flawed value flaw)
  · obtain ⟨rfl, rfl, rfl⟩ := Members.cons.inj same
    exact ⟨token, behind, start, between, starts, named, follows, here, later⟩

end Entries

/-! A scan that meets no fault has fuel left. -/

section Fuel
variable {fuel room : Nat} {first : Bool} {cs rest : List Char}

theorem scanValue_fuel {json : Json} (scanned : scanValue fuel room cs = (json.lift, rest)) :
    ∃ less, fuel = less + 1 := by
  cases fuel with
  | zero => exact absurd (congrArg Prod.fst scanned).symm (Doc.lift_ne_flawed json _)
  | succ less => exact ⟨less, rfl⟩

theorem scanItems_fuel {items : Items Empty} (scanned : scanItems fuel room first cs = (items.lift, rest)) :
    ∃ less, fuel = less + 1 := by
  cases fuel with
  | zero => exact absurd (congrArg Prod.fst scanned).symm (Items.lift_ne_broken items _)
  | succ less => exact ⟨less, rfl⟩

theorem scanMembers_fuel {members : Members Empty} (scanned : scanMembers fuel room first cs = (members.lift, rest)) :
    ∃ less, fuel = less + 1 := by
  cases fuel with
  | zero => exact absurd (congrArg Prod.fst scanned).symm (Members.lift_ne_broken members _)
  | succ less => exact ⟨less, rfl⟩

end Fuel

/-! What is left after a document is an end of the text, and still without exponents. -/

private theorem flat_plain {fuel room : Nat} {cs rest : List Char} {json : Json} (plain : noExponent false cs)
    (scanned : scanValue fuel room cs = (json.lift, rest)) (flat : json.IsFlat) :
    noExponent false rest ∧ rest <:+ cs := by
  obtain ⟨less, rfl⟩ := scanValue_fuel scanned
  obtain ⟨c, inner, starts, -, taken⟩ := scanValue_flat scanned flat
  obtain ⟨plain, ends⟩ := scanScalar_plain (starts ▸ noExponent_skipGap plain) taken
  exact ⟨plain, ends.trans (starts ▸ skipGap_suffix cs)⟩

mutual
theorem scanValue_plain (json : Json) {fuel room : Nat} {cs rest : List Char} (plain : noExponent false cs)
    (scanned : scanValue fuel room cs = (json.lift, rest)) : noExponent false rest ∧ rest <:+ cs := by
  match json with
  | .arr items =>
    obtain ⟨less, rfl⟩ := scanValue_fuel scanned
    obtain ⟨-, inner, opens, inside⟩ := scanValue_arr scanned
    obtain ⟨plain, ends⟩ := skipGap_plain (by decide) plain opens
    obtain ⟨plain, closes⟩ := scanItems_plain items plain inside
    exact ⟨plain, (List.suffix_cons _ _).trans (closes.trans ((List.suffix_cons _ _).trans ends))⟩
  | .obj members =>
    obtain ⟨less, rfl⟩ := scanValue_fuel scanned
    obtain ⟨-, inner, opens, inside⟩ := scanValue_obj scanned
    obtain ⟨plain, ends⟩ := skipGap_plain (by decide) plain opens
    obtain ⟨plain, closes⟩ := scanMembers_plain members plain inside
    exact ⟨plain, (List.suffix_cons _ _).trans (closes.trans ((List.suffix_cons _ _).trans ends))⟩
  | .null | .bool _ | .int _ | .real _ | .str _ => exact flat_plain plain scanned trivial
  | .flawed flaw => exact flaw.reading.elim
termination_by structural json

theorem scanItems_plain (items : Items Empty) {fuel room : Nat} {first : Bool} {cs rest : List Char}
    (plain : noExponent false cs) (scanned : scanItems fuel room first cs = (items.lift, rest)) :
    noExponent false rest ∧ ']' :: rest <:+ cs := by
  obtain ⟨less, rfl⟩ := scanItems_fuel scanned
  match items with
  | .done => exact skipGap_plain (by decide) plain (scanItems_done scanned)
  | .broken flaw => exact flaw.reading.elim
  | .cons head tail =>
    obtain ⟨token, between, starts, -, here, later⟩ := scanItems_cons scanned
    obtain ⟨plain, begins⟩ := starts.plain plain
    obtain ⟨plain, ends⟩ := scanValue_plain head plain here
    obtain ⟨plain, closes⟩ := scanItems_plain tail plain later
    exact ⟨plain, closes.trans (ends.trans begins)⟩
termination_by structural items

theorem scanMembers_plain (members : Members Empty) {fuel room : Nat} {first : Bool} {cs rest : List Char}
    (plain : noExponent false cs) (scanned : scanMembers fuel room first cs = (members.lift, rest)) :
    noExponent false rest ∧ '\x7d' :: rest <:+ cs := by
  obtain ⟨less, rfl⟩ := scanMembers_fuel scanned
  match members with
  | .done => exact skipGap_plain (by decide) plain (scanMembers_done scanned)
  | .broken flaw => exact flaw.reading.elim
  | .cons (.flawed flaw) _ _ => exact flaw.reading.elim
  | .cons (.name key) value tail =>
    obtain ⟨token, behind, start, between, starts, named, follows, here, later⟩ := scanMembers_cons scanned
    obtain ⟨plain, begins⟩ := starts.plain plain
    obtain ⟨plain, rests⟩ := scanName_plain plain named
    obtain ⟨plain, colons⟩ := colon_plain plain follows
    obtain ⟨plain, ends⟩ := scanValue_plain value plain here
    obtain ⟨plain, closes⟩ := scanMembers_plain tail plain later
    exact ⟨plain, closes.trans (ends.trans (colons.trans (rests.trans begins)))⟩
termination_by structural members
end

/-! What follows a document does not matter, once something does. -/

private theorem flat_more {fuel room : Nat} {cs rest : List Char} {json : Json}
    (scanned : scanValue (fuel + 1) room cs = (json.lift, rest)) (present : rest ≠ []) (more : List Char) (enough : Nat)
    (flat : json.IsFlat) : scanValue (enough + 1) room (cs ++ more) = (json.lift, rest ++ more) := by
  obtain ⟨c, inner, starts, other, taken⟩ := scanValue_flat scanned flat
  rw [scanValue_scalar (skipGap_more starts more) other]
  exact scanScalar_more taken present more

private theorem items_present {fuel room : Nat} {first : Bool} {items : Items Empty} {cs rest : List Char}
    (scanned : scanItems fuel room first cs = (items.lift, rest)) : cs ≠ [] := by
  rintro rfl
  obtain ⟨flaw, broken, -⟩ := scanItems_gap fuel room (p := []) rfl first
  exact Items.lift_ne_broken items flaw (congrArg Prod.fst (scanned.symm.trans broken))

private theorem members_present {fuel room : Nat} {first : Bool} {members : Members Empty} {cs rest : List Char}
    (scanned : scanMembers fuel room first cs = (members.lift, rest)) : cs ≠ [] := by
  rintro rfl
  obtain ⟨flaw, broken, -⟩ := scanMembers_gap fuel room (p := []) rfl first
  exact Members.lift_ne_broken members flaw (congrArg Prod.fst (scanned.symm.trans broken))

private theorem value_present {fuel room : Nat} {json : Json} {cs rest : List Char}
    (scanned : scanValue fuel room cs = (json.lift, rest)) : cs ≠ [] := by
  rintro rfl
  obtain ⟨flaw, broken, -⟩ := scanValue_gap fuel room (p := []) rfl
  exact Doc.lift_ne_flawed json flaw (congrArg Prod.fst (scanned.symm.trans broken))

mutual
theorem scanValue_more (json : Json) {fuel room : Nat} {cs rest : List Char}
    (scanned : scanValue fuel room cs = (json.lift, rest)) (present : rest ≠ [] ∨ ¬ json.IsFlat) (more : List Char)
    {enough : Nat} (bound : fuel ≤ enough) : scanValue enough room (cs ++ more) = (json.lift, rest ++ more) := by
  obtain ⟨fuel, rfl⟩ := scanValue_fuel scanned
  obtain ⟨enough, rfl⟩ := Nat.exists_eq_add_one_of_ne_zero (by omega : enough ≠ 0)
  have bound : fuel ≤ enough := Nat.le_of_succ_le_succ bound
  match json with
  | .arr items =>
    obtain ⟨deep, inner, opens, inside⟩ := scanValue_arr scanned
    have inside := scanItems_more items inside more bound
    rw [scanValue_bracket (skipGap_more opens more) deep, inside]
    rfl
  | .obj members =>
    obtain ⟨deep, inner, opens, inside⟩ := scanValue_obj scanned
    have inside := scanMembers_more members inside more bound
    rw [scanValue_brace (skipGap_more opens more) deep, inside]
    rfl
  | .null | .bool _ | .int _ | .real _ | .str _ =>
    exact flat_more scanned (present.resolve_right (not_not_intro trivial)) more enough trivial
  | .flawed flaw => exact flaw.reading.elim
termination_by structural json

theorem scanItems_more (items : Items Empty) {fuel room : Nat} {first : Bool} {cs rest : List Char}
    (scanned : scanItems fuel room first cs = (items.lift, rest)) (more : List Char) {enough : Nat}
    (bound : fuel ≤ enough) : scanItems enough room first (cs ++ more) = (items.lift, rest ++ more) := by
  obtain ⟨fuel, rfl⟩ := scanItems_fuel scanned
  obtain ⟨enough, rfl⟩ := Nat.exists_eq_add_one_of_ne_zero (by omega : enough ≠ 0)
  have bound : fuel ≤ enough := Nat.le_of_succ_le_succ bound
  match items with
  | .done => exact scanItems_close (skipGap_more (scanItems_done scanned) more)
  | .broken flaw => exact flaw.reading.elim
  | .cons head tail =>
    obtain ⟨token, between, starts, unclosed, here, later⟩ := scanItems_cons scanned
    have present := value_present here
    have here := scanValue_more head here (.inl (items_present later)) more bound
    have later := scanItems_more tail later more bound
    rw [scanItems_start (starts.more present more), here, later]
    · rfl
    · obtain ⟨c, token, rfl⟩ := List.exists_cons_of_ne_nil present
      exact unclosed
termination_by structural items

theorem scanMembers_more (members : Members Empty) {fuel room : Nat} {first : Bool} {cs rest : List Char}
    (scanned : scanMembers fuel room first cs = (members.lift, rest)) (more : List Char) {enough : Nat}
    (bound : fuel ≤ enough) : scanMembers enough room first (cs ++ more) = (members.lift, rest ++ more) := by
  obtain ⟨fuel, rfl⟩ := scanMembers_fuel scanned
  obtain ⟨enough, rfl⟩ := Nat.exists_eq_add_one_of_ne_zero (by omega : enough ≠ 0)
  have bound : fuel ≤ enough := Nat.le_of_succ_le_succ bound
  match members with
  | .done => exact scanMembers_close (skipGap_more (scanMembers_done scanned) more)
  | .broken flaw => exact flaw.reading.elim
  | .cons (.flawed flaw) _ _ => exact flaw.reading.elim
  | .cons (.name key) value tail =>
    obtain ⟨token, behind, start, between, starts, named, follows, here, later⟩ := scanMembers_cons scanned
    have present : token ≠ [] := by
      rintro rfl
      cases named
    have here := scanValue_more value here (.inl (members_present later)) more bound
    have later := scanMembers_more tail later more bound
    rw [scanMembers_name (starts.more present more) (scanName_more named more) (colon_more follows more), here, later]
    rfl
termination_by structural members
end

/-! A text that is cut -/

private theorem gap_cut {p : List Char} (gap : skipGap p = []) (json : Json) (fuel room : Nat) {q rest : List Char} :
    Breaks Doc.Cut q json json.lift rest (scanValue fuel room p) := by
  obtain ⟨flaw, broken, ends⟩ := scanValue_gap fuel room gap
  exact .inr ⟨_, broken, .flawed ends⟩

private theorem flat_cut {fuel room : Nat} {p q rest : List Char} {json : Json} (plain : noExponent false (p ++ q))
    (scanned : scanValue (fuel + 1) room (p ++ q) = (json.lift, rest)) (less : Nat) (flat : json.IsFlat) :
    Breaks Doc.Cut q json json.lift rest (scanValue (less + 1) room p) := by
  obtain ⟨c, inner, starts, other, taken⟩ := scanValue_flat scanned flat
  have plain := noExponent_skipGap plain
  rcases skipGap_cut starts with gap | ⟨inside, here, rfl⟩
  · exact gap_cut gap json _ _
  · rw [scanValue_scalar here other]
    rw [starts] at plain
    exact scanScalar_cut (p := c :: inside) plain taken

private theorem unclosed_cut {c : Char} {part q : List Char} (unclosed : (part ++ q).head? ≠ some c) :
    part.head? ≠ some c := by
  cases part with
  | nil => exact nofun
  | cons _ _ => exact unclosed

section Torn
variable {less room : Nat} {first : Bool} {p q part rest : List Char}

private theorem items_torn {head : Json} {tail : Items Empty} {whole : Items Break} {torn : Doc Break}
    (starts : Starts first ']' p part) (unclosed : part.head? ≠ some ']')
    (broken : scanValue less room part = (torn, [])) (cut : Doc.Cut head torn) :
    Breaks Items.Cut q (.cons head tail) whole rest (scanItems (less + 1) room first p) := by
  obtain ⟨flaw, gone, ends⟩ := scanItems_gap less room (p := []) rfl false
  rw [scanItems_start starts unclosed, broken]
  dsimp only
  rw [gone]
  exact .inr ⟨_, rfl, .head cut ends⟩

variable {key : String} {behind start : List Char} {value : Json} {members : Members Empty} {whole : Members Break}
  (starts : Starts first '\x7d' p part)
include starts

private theorem name_torn {flaw : Flaw Break} (broken : scanName part = (.flawed flaw, []))
    (ends : flaw.reading.Ends) : Breaks Members.Cut q members whole rest (scanMembers (less + 1) room first p) := by
  obtain ⟨fault, gone, -⟩ := colon_gap (p := []) rfl
  rw [scanMembers_torn starts broken gone]
  exact .inr ⟨_, rfl, .name ends⟩

private theorem colon_torn {fault : Break} (named : scanName part = (.name key, behind))
    (broken : colon behind = .error fault) (ends : fault.Ends) :
    Breaks Members.Cut q (.cons (.name key) value members) whole rest (scanMembers (less + 1) room first p) := by
  rw [scanMembers_torn starts named broken]
  exact .inr ⟨_, rfl, .value (.flawed ends) ends⟩

private theorem value_torn {torn : Doc Break} (named : scanName part = (.name key, behind))
    (follows : colon behind = .ok start) (broken : scanValue less room start = (torn, [])) (cut : Doc.Cut value torn) :
    Breaks Members.Cut q (.cons (.name key) value members) whole rest (scanMembers (less + 1) room first p) := by
  obtain ⟨flaw, gone, ends⟩ := scanMembers_gap less room (p := []) rfl false
  rw [scanMembers_name starts named follows, broken]
  dsimp only
  rw [gone]
  exact .inr ⟨_, rfl, .value cut ends⟩

end Torn

mutual
theorem scanValue_cut (json : Json) {fuel room : Nat} {p q rest : List Char} (plain : noExponent false (p ++ q))
    (scanned : scanValue fuel room (p ++ q) = (json.lift, rest)) (less : Nat) :
    Breaks Doc.Cut q json json.lift rest (scanValue less room p) := by
  obtain ⟨fuel, rfl⟩ := scanValue_fuel scanned
  cases less with
  | zero => exact .inr ⟨_, rfl, .flawed rfl⟩
  | succ less =>
    match json with
    | .arr items =>
      obtain ⟨deep, inner, opens, inside⟩ := scanValue_arr scanned
      rcases skipGap_cut opens with gap | ⟨part, here, rfl⟩
      · exact gap_cut gap (.arr items) _ _
      · have plain := (skipGap_plain (by decide) plain opens).1
        rw [scanValue_bracket here deep]
        exact (scanItems_cut items plain inside less).map Doc.arr .arr
    | .obj members =>
      obtain ⟨deep, inner, opens, inside⟩ := scanValue_obj scanned
      rcases skipGap_cut opens with gap | ⟨part, here, rfl⟩
      · exact gap_cut gap (.obj members) _ _
      · have plain := (skipGap_plain (by decide) plain opens).1
        rw [scanValue_brace here deep]
        exact (scanMembers_cut members plain inside less).map Doc.obj .obj
    | .null | .bool _ | .int _ | .real _ | .str _ => exact flat_cut plain scanned less trivial
    | .flawed flaw => exact flaw.reading.elim
termination_by structural json

theorem scanItems_cut (items : Items Empty) {fuel room : Nat} {first : Bool} {p q rest : List Char}
    (plain : noExponent false (p ++ q)) (scanned : scanItems fuel room first (p ++ q) = (items.lift, rest))
    (less : Nat) :
    Breaks Items.Cut q items items.lift rest (scanItems less room first p) := by
  obtain ⟨fuel, rfl⟩ := scanItems_fuel scanned
  have only (gap : skipGap p = []) : Breaks Items.Cut q items items.lift rest (scanItems less room first p) := by
    obtain ⟨flaw, broken, ends⟩ := scanItems_gap less room gap first
    exact .inr ⟨_, broken, .here ends⟩
  cases less with
  | zero => exact .inr ⟨_, rfl, .here rfl⟩
  | succ less =>
    match items with
    | .done =>
      rcases skipGap_cut (scanItems_done scanned) with gap | ⟨part, here, same⟩
      · exact only gap
      · exact .inl ⟨part, same, scanItems_close here⟩
    | .broken flaw => exact flaw.reading.elim
    | .cons head tail =>
      obtain ⟨token, between, starts, unclosed, here, later⟩ := scanItems_cons scanned
      rcases starts.cut with gap | ⟨part, begins, none | cut⟩
      · exact only gap
      · subst none
        obtain ⟨flaw, broken, ends⟩ := scanValue_gap less room (p := []) rfl
        exact items_torn begins nofun broken (.flawed ends)
      · have open_ := unclosed_cut (cut ▸ unclosed)
        have plain := (starts.plain plain).1
        have after := (scanValue_plain head plain here).1
        subst cut
        rcases scanValue_cut head plain here less with ⟨r, rfl, whole⟩ | ⟨torn, broken, cut⟩
        · rw [scanItems_start begins open_, whole]
          exact (scanItems_cut tail after later less).map (Items.cons head.lift) .rest
        · exact items_torn begins open_ broken cut
termination_by structural items

theorem scanMembers_cut (members : Members Empty) {fuel room : Nat} {first : Bool} {p q rest : List Char}
    (plain : noExponent false (p ++ q)) (scanned : scanMembers fuel room first (p ++ q) = (members.lift, rest))
    (less : Nat) : Breaks Members.Cut q members members.lift rest (scanMembers less room first p) := by
  obtain ⟨fuel, rfl⟩ := scanMembers_fuel scanned
  have only (gap : skipGap p = []) :
      Breaks Members.Cut q members members.lift rest (scanMembers less room first p) := by
    obtain ⟨flaw, broken, ends⟩ := scanMembers_gap less room gap first
    exact .inr ⟨_, broken, .here ends⟩
  cases less with
  | zero => exact .inr ⟨_, rfl, .here rfl⟩
  | succ less =>
    match members with
    | .done =>
      rcases skipGap_cut (scanMembers_done scanned) with gap | ⟨part, here, same⟩
      · exact only gap
      · exact .inl ⟨part, same, scanMembers_close here⟩
    | .broken flaw => exact flaw.reading.elim
    | .cons (.flawed flaw) _ _ => exact flaw.reading.elim
    | .cons (.name key) value tail =>
      obtain ⟨token, behind, start, between, starts, named, follows, here, later⟩ := scanMembers_cons scanned
      rcases starts.cut with gap | ⟨part, begins, none | cut⟩
      · exact only gap
      · subst none
        exact name_torn begins rfl rfl
      have plain := (starts.plain plain).1
      subst cut
      have following := (scanName_plain plain named).1
      rcases scanName_cut named with ⟨behind, rfl, name⟩ | ⟨flaw, broken, ends⟩
      case inr => exact name_torn begins broken ends
      have plain := (colon_plain following follows).1
      rcases colon_cut follows with ⟨start, rfl, colons⟩ | ⟨fault, broken, ends⟩
      case inr => exact colon_torn begins name broken ends
      have after := (scanValue_plain value plain here).1
      rcases scanValue_cut value plain here less with ⟨r, rfl, whole⟩ | ⟨torn, broken, cut⟩
      case inr => exact value_torn begins name colons broken cut
      rw [scanMembers_name begins name colons, whole]
      exact (scanMembers_cut tail after later less).map (Members.cons (.name key) value.lift) .rest
termination_by structural members
end

end Json

end NanAdapter
