import Mathlib.Data.List.TakeWhile
import NanAdapter.Diagnostics.Command

/-! What is said about an option of a command that is out of place. A text of the user is quoted as it was typed, up to
a line break, and without what would control a terminal. -/

namespace NanAdapter

namespace Text

private theorem ne_break {line : String} (unbroken : '\n' ∉ line.toList) :
    ∀ c ∈ line.toList, decide (c ≠ '\n') = true := by
  intro c member
  apply decide_eq_true
  intro same
  exact unbroken (same ▸ member)

theorem firstLine_of_unbroken {line : String} (unbroken : '\n' ∉ line.toList) : firstLine line = line := by
  rw [firstLine, List.takeWhile_eq_self_iff.mpr (ne_break unbroken), if_neg fun short => Nat.lt_irrefl _ short.1,
    String.ofList_toList]

private theorem takeWhile_break {cs : List Char} (unbroken : ∀ c ∈ cs, decide (c ≠ '\n') = true)
    (rest : List Char) : (cs ++ '\n' :: rest).takeWhile (· ≠ '\n') = cs := by
  rw [List.takeWhile_append_of_pos unbroken, List.takeWhile_cons_of_neg (by decide), List.append_nil]

/-- A line ends at a line break, and the break may begin with a carriage return. -/
theorem firstLine_of_broken {line : String} (unbroken : '\n' ∉ line.toList)
    (ended : line.toList.getLast? ≠ some '\r') (rest : String) :
    firstLine (line ++ "\n" ++ rest) = line ∧ firstLine (line ++ "\r\n" ++ rest) = line := by
  have plain : (line ++ "\n" ++ rest).toList = line.toList ++ '\n' :: rest.toList := by
    simp
  have returned : (line ++ "\r\n" ++ rest).toList = (line.toList ++ ['\r']) ++ '\n' :: rest.toList := by
    simp
  constructor
  · rw [firstLine, plain, takeWhile_break (ne_break unbroken), if_neg fun cut => ended cut.2, String.ofList_toList]
  · have unbroken' : ∀ c ∈ line.toList ++ ['\r'], decide (c ≠ '\n') = true := by
      intro c member
      obtain member | member := List.mem_append.mp member
      · exact ne_break unbroken c member
      · rw [List.mem_singleton.mp member]
        decide
    have cut : (line.toList ++ ['\r']).length < (line.toList ++ ['\r'] ++ '\n' :: rest.toList).length := by
      simp
    rw [firstLine, returned, takeWhile_break unbroken', if_pos ⟨cut, List.getLast?_concat⟩, List.dropLast_concat,
      String.ofList_toList]

end Text

namespace OptionFault

/-- The text of the user that is to blame, if any is quoted. -/
def foreign : OptionFault → String
  | .unexpected argument => argument
  | .repeatedReset => ""
  | .valueOfReset value => value

/-- What is said before the text that is to blame. -/
def opening : OptionFault → String
  | .unexpected _ => "unexpected argument '"
  | .repeatedReset => "the argument '--reset' cannot be used multiple times"
  | .valueOfReset _ => "unexpected value '"

/-- What is said behind it. -/
def closing : OptionFault → String
  | .unexpected _ => "' found"
  | .repeatedReset => ""
  | .valueOfReset _ => "' for '--reset' found; no more were expected"

def wording (fault : OptionFault) : String := fault.opening ++ fault.foreign ++ fault.closing

/-- The fault as it is shown, without what would control a terminal. -/
def shown : OptionFault → OptionFault
  | .unexpected argument => .unexpected (Text.shown false argument)
  | .repeatedReset => .repeatedReset
  | .valueOfReset value => .valueOfReset (Text.shown false value)

variable {fault : OptionFault}

private theorem needless_reset (value : String) : Argument.needlessValueText "--reset" value =
    "unexpected value '" ++ value ++ "' for '--reset' found; no more were expected" := by
  have ending : "' for '" ++ ("--reset" ++ "' found; no more were expected") =
      "' for '--reset' found; no more were expected" := by decide +kernel
  unfold Argument.needlessValueText
  simp only [String.append_assoc]
  rw [ending]

theorem message_eq (fault : OptionFault) : fault.message = fault.shown.wording := by
  cases fault with
  | unexpected argument => rfl
  | repeatedReset => decide +kernel
  | valueOfReset value => exact needless_reset _

theorem shown_of_plain (plain : ∀ c ∈ fault.foreign.toList, Text.isPlain c = true) : fault.shown = fault := by
  cases fault with
  | unexpected argument => exact congrArg unexpected (Text.shown_of_plain false plain)
  | repeatedReset => rfl
  | valueOfReset value => exact congrArg valueOfReset (Text.shown_of_plain false plain)

private theorem opening_unbroken (fault : OptionFault) :
    '\n' ∉ fault.opening.toList ∧ fault.opening.toList.getLast? ≠ some '\r' := by
  cases fault with
  | unexpected argument | repeatedReset | valueOfReset value =>
    dsimp only [opening]
    decide +kernel

private theorem closing_unbroken (fault : OptionFault) : '\n' ∉ fault.closing.toList := by
  cases fault with
  | unexpected argument | repeatedReset | valueOfReset value =>
    dsimp only [closing]
    decide +kernel

/-- The wording is one line unless a text with a line break is quoted. -/
theorem firstLine_wording (unbroken : '\n' ∉ fault.foreign.toList) :
    Text.firstLine fault.wording = fault.wording := by
  apply Text.firstLine_of_unbroken
  simp only [wording, String.toList_append, List.mem_append, not_or]
  exact ⟨⟨fault.opening_unbroken.1, unbroken⟩, fault.closing_unbroken⟩

/-- Of such a text the first line is quoted, and nothing is said behind it. -/
theorem firstLine_wording_of_broken {line mark rest : String} (cut : fault.foreign = line ++ mark ++ rest)
    (breaks : mark = "\n" ∨ mark = "\r\n") (unbroken : '\n' ∉ line.toList)
    (ended : line.toList.getLast? ≠ some '\r') :
    Text.firstLine fault.wording = fault.opening ++ line := by
  have whole : fault.wording = fault.opening ++ line ++ mark ++ (rest ++ fault.closing) := by
    simp only [wording, cut, String.append_assoc]
  have unbroken' : '\n' ∉ (fault.opening ++ line).toList := by
    rw [String.toList_append, List.mem_append, not_or]
    exact ⟨fault.opening_unbroken.1, unbroken⟩
  have ended' : (fault.opening ++ line).toList.getLast? ≠ some '\r' := by
    rw [String.toList_append, List.getLast?_append]
    cases last : line.toList.getLast? with
    | none => exact fault.opening_unbroken.2
    | some c =>
      rw [last] at ended
      exact ended
  obtain ⟨plain, returned⟩ := Text.firstLine_of_broken unbroken' ended' (rest ++ fault.closing)
  rw [whole]
  obtain rfl | rfl := breaks
  · exact plain
  · exact returned

end OptionFault

end NanAdapter
