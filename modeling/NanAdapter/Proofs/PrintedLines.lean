import NanAdapter.Notification.Schema

/-! Printed documents stand on one line: what would break it is escaped inside of strings, and appears nowhere
else. -/

namespace NanAdapter

theorem Text.newline_not_mem_natural (n : Nat) : '\n' ∉ natural n := by
  intro member
  exact absurd (isDigit_of_mem_natural member) (by decide)

theorem Text.newline_not_mem_integer (value : Int) : '\n' ∉ integer value := by
  cases value with
  | ofNat n => exact newline_not_mem_natural n
  | negSucc n => simp [integer, newline_not_mem_natural]

namespace Binary64

theorem newline_not_mem_pointed {digits : List Char} (plain : '\n' ∉ digits) (place : Nat) :
    '\n' ∉ pointed digits place := by
  intro member
  rcases List.mem_append.mp member with early | late
  · exact plain (List.mem_of_mem_take early)
  · rcases List.mem_cons.mp late with point | late
    · exact absurd point (by decide)
    · exact plain (List.mem_of_mem_drop late)

theorem newline_not_mem_text (x : Binary64) : '\n' ∉ x.text := by
  have sign : '\n' ∉ (if x.negative then ['-'] else []) := by
    split <;> decide
  have zeros (count : Nat) : '\n' ∉ List.replicate count '0' := by
    intro member
    exact absurd (List.eq_of_mem_replicate member) (by decide)
  unfold text
  -- whatever the digits are
  generalize x.shortest = found
  obtain ⟨n, power⟩ := found
  have digits := Text.newline_not_mem_natural n
  dsimp only
  split
  · exact List.not_mem_append sign (by decide)
  · refine List.not_mem_append sign ?_
    split
    · exact List.not_mem_append (List.not_mem_append (by decide) (zeros _)) digits
    · split
      · refine List.not_mem_append (newline_not_mem_pointed (List.not_mem_append digits (zeros _)) _) ?_
        split <;> decide
      · refine List.not_mem_append (List.not_mem_append ?_ ?_) (Text.newline_not_mem_integer _)
        · split
          · exact digits
          · exact newline_not_mem_pointed digits 1
        · split <;> decide

end Binary64

namespace Json

theorem newline_not_mem_escaped (c : Char) : '\n' ∉ escaped c := by
  have digit : ∀ n < 16, '\n' ≠ Nat.digitChar n := by decide
  unfold escaped
  split
  next => decide
  next => decide
  next => decide
  next => decide
  next => decide
  next => decide
  next => decide
  next newline _ _ =>
    split
    next small =>
      have high := digit (c.toNat / 16) (by omega)
      have low := digit (c.toNat % 16) (Nat.mod_lt _ (by decide))
      change '\n' ∉ ['\\', 'u', '0', '0', Nat.digitChar _, Nat.digitChar _]
      simp [high, low]
    · simpa [eq_comm] using newline

theorem newline_not_mem_string (text : String) : '\n' ∉ string text := by
  simp [string, newline_not_mem_escaped]

end Json

mutual
theorem Doc.newline_not_mem_chars (json : Json) : '\n' ∉ json.chars := by
  match json with
  | .null => decide
  | .bool value => cases value <;> decide
  | .int value => exact Text.newline_not_mem_integer value
  | .real value => exact value.newline_not_mem_text
  | .str text => exact Json.newline_not_mem_string text
  | .arr items => exact List.not_mem_cons_of_ne_of_not_mem (by decide) (items.newline_not_mem_chars true)
  | .obj members => exact List.not_mem_cons_of_ne_of_not_mem (by decide) (members.newline_not_mem_chars true)
  | .flawed flaw => exact flaw.reading.elim

theorem Items.newline_not_mem_chars (first : Bool) (items : Items Empty) : '\n' ∉ items.chars first := by
  match items with
  | .done => exact List.not_mem_cons_of_ne_of_not_mem (by decide) List.not_mem_nil
  | .broken flaw => exact flaw.reading.elim
  | .cons head rest =>
    have before : '\n' ∉ (if first then [] else [',']) := by
      split <;> decide
    rw [Items.chars]
    simp [before, head.newline_not_mem_chars, rest.newline_not_mem_chars false]

theorem Members.newline_not_mem_chars (first : Bool) (members : Members Empty) : '\n' ∉ members.chars first := by
  match members with
  | .done => exact List.not_mem_cons_of_ne_of_not_mem (by decide) List.not_mem_nil
  | .broken flaw => exact flaw.reading.elim
  | .cons (.name key) value rest =>
    have before : '\n' ∉ (if first then [] else [',']) := by
      split <;> decide
    rw [Members.chars]
    simp [before, Json.newline_not_mem_string, value.newline_not_mem_chars, rest.newline_not_mem_chars false]
  | .cons (.flawed flaw) _ _ => exact flaw.reading.elim
end

/-- A notification is shown on one line. -/
theorem Notification.newline_not_mem_line (n : Notification) : '\n' ∉ n.line.toList := by
  rw [line, Schema.print, Json.text, String.toList_ofList]
  exact Doc.newline_not_mem_chars _

end NanAdapter
