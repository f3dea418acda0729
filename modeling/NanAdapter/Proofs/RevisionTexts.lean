import NanAdapter.Proofs.EnvironmentReadings

/-! The texts that name a revision, one by one. Where a number may be written with an underscore for the point, that
makes two ways to write it, and there are no others: every text that is read has one of nine numbers in it, with at most
one letter right before it and nothing but blanks around both. -/

namespace NanAdapter

namespace Revision
variable {cs : List Char} {text : String} {r : Revision}

/-- Every way to write the number of a revision. -/
def numbers : List (String × Revision) :=
  [("1", .v1_0), ("1.0", .v1_0), ("1_0", .v1_0), ("1.2", .v1_2), ("1_2", .v1_2), ("1.5", .v1_5), ("1_5", .v1_5),
    ("1.6", .v1_6), ("1_6", .v1_6)]

/-- What may have been written if this is read with a point for every underscore. -/
def undotted : List Char → List (List Char)
  | [] => [[]]
  | c :: rest =>
    if c = '.' then (undotted rest).flatMap fun cs => ['.' :: cs, '_' :: cs] else (undotted rest).map (c :: ·)

theorem mem_undotted (cs : List Char) : cs ∈ undotted (cs.map fun c => if c = '_' then '.' else c) := by
  induction cs with
  | nil => exact List.mem_singleton_self []
  | cons c rest ih =>
    rw [List.map_cons, undotted]
    by_cases underscore : c = '_'
    · rw [if_pos underscore, if_pos rfl, List.mem_flatMap]
      exact ⟨rest, ih, by simp [underscore]⟩
    · rw [if_neg underscore]
      split
      next point =>
        rw [List.mem_flatMap]
        exact ⟨rest, ih, by simp [point]⟩
      next => exact List.mem_map.mpr ⟨rest, ih, rfl⟩

theorem spelled_iff : Spelled cs r ↔ (String.ofList cs, r) ∈ numbers := by
  constructor
  · intro ⟨spelling, listed, dotted⟩
    have each : ∀ entry ∈ spellings, ∀ cs ∈ undotted entry.1.toList, (String.ofList cs, entry.2) ∈ numbers := by decide
    have found := mem_undotted cs
    rw [dotted] at found
    exact each (spelling, r) listed cs found
  · intro listed
    have each : ∀ entry ∈ numbers,
        (String.ofList (entry.1.toList.map fun c => if c = '_' then '.' else c), entry.2) ∈ spellings := by decide
    have found := each _ listed
    rw [String.toList_ofList] at found
    exact ⟨_, found, (String.toList_ofList).symm⟩

/-- The text is one of the numbers, with a letter before it or without, between blanks. -/
theorem named_iff : Named text r ↔ ∃ lead ∈ [[], ['v'], ['V']], ∃ number,
    (number, r) ∈ numbers ∧ Text.Word text (lead ++ number.toList) := by
  constructor
  · intro ⟨lead, leads, cs, word, spelled⟩
    refine ⟨lead, leads, String.ofList cs, spelled_iff.mp spelled, ?_⟩
    rwa [String.toList_ofList]
  · intro ⟨lead, leads, number, listed, word⟩
    refine ⟨lead, leads, number.toList, word, spelled_iff.mpr ?_⟩
    rwa [String.ofList_toList]

/-- The number may be written with either mark in it. -/
theorem named_marked {lead : List Char} {mark : Char} (leads : lead ∈ [[], ['v'], ['V']]) (marks : mark ∈ ['.', '_'])
    (padded : Text.Padded (lead ++ r.text.toList.map fun c => if c = '.' then mark else c) text.toList) :
    Named text r := by
  have three : lead = [] ∨ lead = ['v'] ∨ lead = ['V'] := by simpa using leads
  have two : mark = '.' ∨ mark = '_' := by simpa using marks
  refine ⟨lead, leads, _, ⟨padded, ?_⟩, spelled_iff.mpr ?_⟩
  · obtain rfl | rfl | rfl := three <;> obtain rfl | rfl := two <;> cases r <;> decide
  · obtain rfl | rfl := two <;> cases r <;> decide

/-- A blank after the letter is not passed over. -/
theorem not_named_of_gap {letter : Char} {before gap rest : List Char} (letters : letter ∈ ['v', 'V'])
    (blank : Text.Blank before) (blanks : Text.Blank gap) (some : gap ≠ [])
    (whole : text.toList = before ++ letter :: gap ++ rest) : ¬ Named text r := by
  intro ⟨lead, leads, number, word, spelled⟩
  obtain ⟨b, gap, rfl⟩ := List.exists_cons_of_ne_nil some
  have solid : Text.isBlank letter = false ∧ letter ≠ '1' := by
    have two : letter = 'v' ∨ letter = 'V' := by simpa using letters
    obtain rfl | rfl := two <;> decide
  obtain ⟨stands, other⟩ := solid
  have here : text.toList.dropWhile Text.isBlank = letter :: b :: (gap ++ rest) := by
    rw [whole, List.append_assoc]
    refine Text.dropWhile_blank_append blank ?_
    intro c first
    exact Option.some.inj first ▸ stands
  obtain ⟨more, rfl⟩ := List.head?_eq_some_iff.mp spelled.head
  have occupied : lead ++ '1' :: more ≠ [] := List.append_ne_nil_of_right_ne_nil lead (List.cons_ne_nil _ _)
  obtain ⟨after, there⟩ := word.dropWhile_eq occupied
  have same := here.symm.trans there
  have three : lead = [] ∨ lead = ['v'] ∨ lead = ['V'] := by simpa using leads
  obtain rfl | rfl | rfl := three
  · exact other (List.cons.inj same).1
  all_goals
    have one : b = '1' := (List.cons.inj (List.cons.inj same).2).1
    have blank := blanks b List.mem_cons_self
    rw [one] at blank
    exact absurd blank (by decide)

/-- A text is read as a revision if and only if it is one of the numbers between blanks, with one letter before it or
without, and otherwise it is given back as it is. So every revision is read back from its own text, with blanks around
it and with either mark in it, but a blank after the letter makes it unknown. -/
theorem revisions_are_read_exactly (text : String) :
    (∀ r, ofText text = .ok r ↔ ∃ lead ∈ [[], ['v'], ['V']], ∃ number,
      (number, r) ∈ numbers ∧ Text.Word text (lead ++ number.toList)) ∧
    (∀ cause, ofText text = .error cause ↔ cause = ⟨text⟩ ∧
      ∀ lead ∈ [[], ['v'], ['V']], ∀ entry ∈ numbers, ¬ Text.Word text (lead ++ entry.1.toList)) ∧
    (∀ r, ∀ lead ∈ [[], ['v'], ['V']], ∀ mark ∈ ['.', '_'],
      Text.Padded (lead ++ r.text.toList.map fun c => if c = '.' then mark else c) text.toList → ofText text = .ok r) ∧
    ∀ letter ∈ ['v', 'V'], ∀ before gap rest, Text.Blank before → Text.Blank gap → gap ≠ [] →
      text.toList = before ++ letter :: gap ++ rest → ofText text = .error ⟨text⟩ := by
  refine ⟨fun r => ofText_eq_ok.trans named_iff, ?_, ?_, ?_⟩
  · intro cause
    constructor
    · intro unknown
      refine ⟨text_of_unknown unknown, ?_⟩
      intro lead leads entry listed word
      have named : Named text entry.2 := named_iff.mpr ⟨lead, leads, entry.1, listed, word⟩
      cases unknown.symm.trans (ofText_eq_ok.mpr named)
    · intro ⟨same, nothing⟩
      rw [same]
      apply ofText_eq_error
      intro r named
      obtain ⟨lead, leads, number, listed, word⟩ := named_iff.mp named
      exact nothing lead leads (number, r) listed word
  · intro r lead leads mark marks padded
    exact ofText_eq_ok.mpr (named_marked leads marks padded)
  · intro letter letters before gap rest blank blanks some whole
    exact ofText_eq_error fun r => not_named_of_gap letters blank blanks some whole

/-- The newest revision with a capital letter, an underscore and blanks around it, and then with blanks in it. -/
theorem revisions_are_read_exactly_between_blanks :
    let text := "\u00a0V1_6\n"
    let gapped := " v\u3000\t1.6"
    Text.Padded (['V'] ++ (Revision.text .v1_6).toList.map fun c => if c = '.' then '_' else c) text.toList ∧
      ofText text = .ok .v1_6 ∧ Text.Blank ['\u3000', '\t'] ∧
      gapped.toList = [' '] ++ 'v' :: ['\u3000', '\t'] ++ "1.6".toList ∧ ofText gapped = .error ⟨gapped⟩ := by
  intro text gapped
  have padded : Text.Padded (['V'] ++ (Revision.text .v1_6).toList.map fun c => if c = '.' then '_' else c)
      text.toList := ⟨['\u00a0'], ['\n'], by decide, by decide, by decide⟩
  have blanks : Text.Blank ['\u3000', '\t'] := by decide
  have whole : gapped.toList = [' '] ++ 'v' :: ['\u3000', '\t'] ++ "1.6".toList := by decide
  obtain ⟨-, -, read, -⟩ := revisions_are_read_exactly text
  obtain ⟨-, -, -, unread⟩ := revisions_are_read_exactly gapped
  exact ⟨padded, read _ _ (by decide) _ (by decide) padded, blanks, whole,
    unread 'v' (by decide) _ _ _ (by decide) blanks (by decide) whole⟩

end Revision

end NanAdapter
