import NanAdapter.Proofs.Documents
import NanAdapter.Json.Print

/-! Scanning undoes printing. What was printed is followed by what came after it, and the scan is back
where the printing ended, with the same document. -/

namespace NanAdapter

namespace Json

/-! Numbers -/

theorem closes_nil : Closes [] := fun _ _ impossible => nomatch impossible

theorem closes_cons {c : Char} (cs : List Char) (other : c = ',' ∨ c = ']' ∨ c = '\x7d') : Closes (c :: cs) := by
  intro d ds same
  cases same
  rcases other with rfl | rfl | rfl <;> decide

private theorem scanNumeral_natural (negative : Bool) (n : Nat) {rest : List Char} (closes : Closes rest) :
    scanNumeral ((if negative then ['-'] else []) ++ Text.natural n ++ rest) =
      .ok (⟨negative, Text.natural n, [], none⟩, rest) := by
  refine scanNumeral_digits (Text.natural_ne_nil n) (fun c => Text.isDigit_of_mem_natural) ?_ closes negative
  intro leading
  rw [Text.natural_leading_zero leading]
  rfl

theorem scanNumber_integer {value : Int} {rest : List Char}
    (fits : -(UInt64.size : Int) ≤ 2 * value ∧ value < UInt64.size) (closes : Closes rest) :
    scanNumber (Text.integer value ++ rest) = (.int value, rest) := by
  have digits (n : Nat) : Nat.ofDigitChars 10 (Text.natural n) 0 = n := Nat.ofDigitChars_ten_toDigits
  cases value with
  | ofNat n =>
    have spelled : scanNumeral (Text.integer (.ofNat n) ++ rest) = .ok (⟨false, Text.natural n, [], none⟩, rest) :=
      scanNumeral_natural false n closes
    have small : n < UInt64.size := Int.ofNat_lt.mp fits.2
    rw [scanNumber, spelled]
    simp [Numeral.integer?, digits, small]
  | negSucc n =>
    have spelled :
        scanNumeral (Text.integer (.negSucc n) ++ rest) = .ok (⟨true, Text.natural (n + 1), [], none⟩, rest) :=
      scanNumeral_natural true (n + 1) closes
    have small : 2 * (n + 1) ≤ UInt64.size := by omega
    rw [scanNumber, spelled]
    simp [Numeral.integer?, digits, small, Int.negSucc_eq]

/-! Strings -/

theorem stringChars_escaped (c : Char) (rest : List Char) :
    stringChars none (escaped c ++ rest) = (stringChars none rest).map (c :: ·) := by
  unfold escaped
  split
  iterate 7 rfl
  next quote backslash _ _ _ _ _ =>
    split
    next control => exact stringChars_control c control rest
    next printable => exact stringChars_plain quote backslash printable rest

theorem skipString_escaped (c : Char) (rest : List Char) : skipString (escaped c ++ rest) = skipString rest := by
  unfold escaped
  split
  iterate 7 rfl
  next quote backslash _ _ _ _ _ =>
    split
    next control => exact skipString_control c control rest
    next printable => exact skipString_plain quote backslash printable rest

theorem scanString_escaped (cs rest : List Char) :
    scanString (cs.flatMap escaped ++ '"' :: rest) = (.ok (String.ofList cs), rest) := by
  have chars : stringChars none (cs.flatMap escaped ++ '"' :: rest) = .ok cs := by
    induction cs with
    | nil => rfl
    | cons c cs ih => rw [List.flatMap_cons, List.append_assoc, stringChars_escaped, ih]; rfl
  have skipped : skipString (cs.flatMap escaped ++ '"' :: rest) = .ok rest := by
    clear chars
    induction cs with
    | nil => rfl
    | cons c cs ih => rw [List.flatMap_cons, List.append_assoc, skipString_escaped, ih]
  simp only [scanString, chars, skipped]

/-! Documents -/

/-- What a text has to start with for a value to be there. -/
private def Opens (c : Char) : Prop := isGap c = false ∧ c ≠ ']'

private theorem opens_of_isDigit {c : Char} (digit : c.isDigit) : Opens c := by
  constructor
  · cases gap : isGap c with
    | false => rfl
    | true =>
      simp only [isGap, Bool.or_eq_true, decide_eq_true_eq] at gap
      rcases gap with ((rfl | rfl) | rfl) | rfl <;> contradiction
  · rintro rfl
    contradiction

private theorem skipGap_cons {c : Char} (present : isGap c = false) (cs : List Char) : skipGap (c :: cs) = c :: cs := by
  rw [skipGap, List.dropWhile_cons_of_neg (by simp [present])]

private theorem scanValue_number (fuel room : Nat) {c : Char} (cs : List Char) (start : c = '-' ∨ c.isDigit) :
    scanValue (fuel + 1) room (c :: cs) = scanNumber (c :: cs) := by
  rcases start with rfl | digit
  · rfl
  · have other {d : Char} (letter : d.isDigit = false) : c ≠ d := by
      rintro rfl
      simp [letter] at digit
    rw [scanValue, skipGap_cons (opens_of_isDigit digit).1]
    split
    next same => cases same; contradiction
    next same => cases same; contradiction
    next =>
      rw [scanScalar.eq_def]
      split
      next same => cases same; contradiction
      next same => cases same; contradiction
      next same => cases same; contradiction
      next same => cases same; contradiction
      next => simp [digit]

private theorem integer_opens (value : Int) : ∃ c cs, Text.integer value = c :: cs ∧ (c = '-' ∨ c.isDigit) := by
  cases value with
  | ofNat n =>
    obtain ⟨c, cs, same⟩ := List.exists_cons_of_ne_nil (Text.natural_ne_nil n)
    exact ⟨c, cs, same, .inr (Text.isDigit_of_mem_natural (same ▸ List.mem_cons_self))⟩
  | negSucc n => exact ⟨'-', Text.natural (n + 1), rfl, .inl rfl⟩

private theorem chars_open {json : Json} {room : Nat} (fits : json.Fits room) :
    ∃ c cs, json.chars = c :: cs ∧ Opens c := by
  cases json with
  | null => exact ⟨'n', "ull".toList, rfl, by decide, by decide⟩
  | bool value =>
    cases value with
    | false => exact ⟨'f', "alse".toList, rfl, by decide, by decide⟩
    | true => exact ⟨'t', "rue".toList, rfl, by decide, by decide⟩
  | int value =>
    obtain ⟨c, cs, same, start⟩ := integer_opens value
    refine ⟨c, cs, same, ?_⟩
    rcases start with rfl | digit
    · exact ⟨by decide, by decide⟩
    · exact opens_of_isDigit digit
  | real value => exact absurd fits id
  | str text => exact ⟨'"', text.toList.flatMap escaped ++ ['"'], rfl, by decide, by decide⟩
  | arr items => exact ⟨'[', items.chars true, rfl, by decide, by decide⟩
  | obj members => exact ⟨'\x7b', members.chars true, rfl, by decide, by decide⟩
  | flawed flaw => exact flaw.reading.elim

/-- The elements after the first one start with a comma, so the value before them ends there. -/
private theorem items_close (items : Items Empty) (rest : List Char) : Closes (items.chars false ++ rest) := by
  cases items with
  | done => exact closes_cons rest (.inr (.inl rfl))
  | broken flaw => exact flaw.reading.elim
  | cons head tail => exact closes_cons _ (.inl rfl)

private theorem members_close (members : Members Empty) (rest : List Char) :
    Closes (members.chars false ++ rest) := by
  cases members with
  | done => exact closes_cons rest (.inr (.inr rfl))
  | broken flaw => exact flaw.reading.elim
  | cons key value tail =>
    cases key with
    | name text => exact closes_cons _ (.inl rfl)
    | flawed flaw => exact flaw.reading.elim

private theorem items_length (items : Items Empty) : 0 < (items.chars false).length := by
  cases items with
  | done => simp [Items.chars]
  | broken flaw => exact flaw.reading.elim
  | cons head tail => simp [Items.chars]

private theorem scanValue_array (fuel : Nat) {room : Nat} (deep : 0 < room) (cs : List Char) :
    scanValue (fuel + 1) room ('[' :: cs) =
      (.arr (scanItems fuel (room - 1) true cs).1, (scanItems fuel (room - 1) true cs).2) := by
  change (Doc.arr (if room = 0 then _ else _), _) = _
  rw [if_neg (Nat.ne_of_gt deep)]

private theorem scanValue_object (fuel : Nat) {room : Nat} (deep : 0 < room) (cs : List Char) :
    scanValue (fuel + 1) room ('\x7b' :: cs) =
      (.obj (scanMembers fuel (room - 1) true cs).1, (scanMembers fuel (room - 1) true cs).2) := by
  change (Doc.obj (if room = 0 then _ else _), _) = _
  rw [if_neg (Nat.ne_of_gt deep)]

/-- What scans an element, once its first character is known. -/
private theorem scanItems_value (fuel room : Nat) (first : Bool) {c : Char} (opens : Opens c) (cs : List Char)
    {head : Doc Break} {rest : List Char} (value : scanValue fuel room (c :: cs) = (head, rest)) :
    scanItems (fuel + 1) room first ((if first then [] else [',']) ++ c :: cs) =
      (.cons head (scanItems fuel room false rest).1, (scanItems fuel room false rest).2) := by
  obtain ⟨present, unclosed⟩ := opens
  cases first with
  | true =>
    rw [scanItems]
    simp only [if_true, List.nil_append, skipGap_cons present]
    split
    next same => cases same; contradiction
    next => simp [unclosed, value]
  | false =>
    change (if _ then _ else _ : Items Break × List Char) = _
    simp [skipGap_cons present, unclosed, value]

private theorem scanName_string (key : String) (cs : List Char) : scanName (string key ++ cs) = (.name key, cs) := by
  have quoted : string key ++ cs = '"' :: (key.toList.flatMap escaped ++ '"' :: cs) := by
    simp [string]
  rw [quoted, scanName, scanString_escaped, String.ofList_toList]

private theorem scanMembers_value (fuel room : Nat) (first : Bool) (key : String) {cs : List Char}
    {value : Doc Break} {rest : List Char} (scanned : scanValue fuel room cs = (value, rest)) :
    scanMembers (fuel + 1) room first ((if first then [] else [',']) ++ (string key ++ ':' :: cs)) =
      (.cons (.name key) value (scanMembers fuel room false rest).1, (scanMembers fuel room false rest).2) := by
  obtain ⟨letters, quoted⟩ : ∃ letters, string key ++ ':' :: cs = '"' :: letters := ⟨_, rfl⟩
  have named := scanName_string key (':' :: cs)
  rw [quoted] at named ⊢
  have present : isGap '"' = false := by decide
  have behind : colon (':' :: cs) = .ok cs := rfl
  have separated : isGap ',' = false := by decide
  cases first with
  | true =>
    rw [scanMembers]
    simp only [if_true, List.nil_append, skipGap_cons present]
    split
    next same => cases same
    next => simp [named, behind, scanned]
  | false =>
    rw [scanMembers]
    simp only [Bool.false_eq_true, if_false, List.cons_append, List.nil_append, skipGap_cons separated]
    split
    next same => cases same
    next => simp [skipGap_cons present, named, behind, scanned]

/-! Fuel of twice the length is enough: every branch of the scan takes a character at least every other
time. -/

mutual
theorem scanValue_chars (json : Json) {fuel room : Nat} {rest : List Char} (fits : json.Fits room)
    (enough : 2 * json.chars.length ≤ fuel) (closes : Closes rest) :
    scanValue fuel room (json.chars ++ rest) = (json.lift, rest) := by
  obtain ⟨fuel, rfl⟩ : ∃ less, fuel = less + 1 := by
    obtain ⟨c, cs, same, -⟩ := chars_open fits
    rw [same, List.length_cons] at enough
    exact ⟨fuel - 1, by omega⟩
  match json with
  | .null => rfl
  | .bool true => rfl
  | .bool false => rfl
  | .int value =>
    obtain ⟨c, cs, spelled, start⟩ := integer_opens value
    have scanned := scanNumber_integer fits closes
    rw [Doc.chars]
    rw [spelled] at scanned ⊢
    exact (scanValue_number fuel room _ start).trans scanned
  | .real value => exact absurd fits id
  | .str text =>
    have scanned := scanString_escaped text.toList rest
    have quoted : Doc.chars (.str text) ++ rest = '"' :: (text.toList.flatMap escaped ++ '"' :: rest) := by
      simp [Doc.chars, string]
    rw [quoted]
    change scanScalar ('"' :: (text.toList.flatMap escaped ++ '"' :: rest)) = _
    simp only [scanScalar, scanned, String.ofList_toList, Doc.lift]
  | .arr items =>
    obtain ⟨deep, inside⟩ := fits
    rw [Doc.chars, List.length_cons] at enough
    have scanned := scanItems_chars items true inside (by omega : _ ≤ fuel) rest
    rw [Doc.chars, List.cons_append, scanValue_array fuel deep, scanned, Doc.lift]
  | .obj members =>
    obtain ⟨deep, inside⟩ := fits
    rw [Doc.chars, List.length_cons] at enough
    have scanned := scanMembers_chars members true inside (by omega : _ ≤ fuel) rest
    rw [Doc.chars, List.cons_append, scanValue_object fuel deep, scanned, Doc.lift]
  | .flawed flaw => exact flaw.reading.elim
termination_by structural json

theorem scanItems_chars (items : Items Empty) {fuel room : Nat} (first : Bool) (fits : items.Fits room)
    (enough : 2 * (items.chars first).length ≤ fuel) (rest : List Char) :
    scanItems fuel room first (items.chars first ++ rest) = (items.lift, rest) := by
  match items with
  | .done =>
    cases fuel with
    | zero => exact absurd enough (by simp [Items.chars])
    | succ fuel => rfl
  | .broken flaw => exact flaw.reading.elim
  | .cons head tail =>
    obtain ⟨this, those⟩ := fits
    obtain ⟨c, cs, same, opens⟩ := chars_open this
    obtain ⟨fuel, rfl⟩ : ∃ less, fuel = less + 1 := by
      rw [Items.chars, same] at enough
      simp at enough
      exact ⟨fuel - 1, by omega⟩
    have lengths : 2 * head.chars.length ≤ fuel ∧ 2 * (tail.chars false).length ≤ fuel := by
      rw [Items.chars, List.length_append, List.length_append] at enough
      have head_length : 0 < head.chars.length := by simp [same]
      have tail_length := items_length tail
      omega
    have value := scanValue_chars head this lengths.1 (items_close tail rest)
    have others := scanItems_chars tail false those lengths.2 rest
    rw [same, List.cons_append] at value
    have scanned := scanItems_value fuel room first opens (cs ++ (tail.chars false ++ rest)) value
    rw [others] at scanned
    rw [Items.chars, same, Items.lift, ← scanned]
    simp only [List.append_assoc, List.cons_append]
termination_by structural items

theorem scanMembers_chars (members : Members Empty) {fuel room : Nat} (first : Bool) (fits : members.Fits room)
    (enough : 2 * (members.chars first).length ≤ fuel) (rest : List Char) :
    scanMembers fuel room first (members.chars first ++ rest) = (members.lift, rest) := by
  match members with
  | .done =>
    cases fuel with
    | zero => exact absurd enough (by simp [Members.chars])
    | succ fuel => rfl
  | .broken flaw => exact flaw.reading.elim
  | .cons (.flawed flaw) _ _ => exact flaw.reading.elim
  | .cons (.name key) value tail =>
    obtain ⟨this, those⟩ := fits
    obtain ⟨fuel, rfl⟩ : ∃ less, fuel = less + 1 := by
      rw [Members.chars] at enough
      simp [string] at enough
      exact ⟨fuel - 1, by omega⟩
    have lengths : 2 * value.chars.length ≤ fuel ∧ 2 * (tail.chars false).length ≤ fuel := by
      rw [Members.chars] at enough
      simp [string] at enough
      omega
    have head := scanValue_chars value this lengths.1 (members_close tail rest)
    have others := scanMembers_chars tail false those lengths.2 rest
    have scanned := scanMembers_value fuel room first key head
    rw [others] at scanned
    rw [Members.chars, Members.lift, ← scanned]
    simp only [List.append_assoc, List.cons_append]
termination_by structural members
end

theorem scan_chars {json : Json} {room : Nat} (fits : json.Fits room) : scan room json.chars = (json.lift, []) := by
  have scanned := scanValue_chars json fits (by omega : _ ≤ 2 * json.chars.length + 2) closes_nil
  rwa [List.append_nil] at scanned

end Json

end NanAdapter
