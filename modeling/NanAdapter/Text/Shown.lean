/-! Foreign text inside a message. What would control a terminal is left out: control characters and
the sequences that an escape character begins. A text without either is shown as it is. -/

namespace NanAdapter.Text

/-- Control characters that only move on, by a column, a line or a page. -/
def isSpacing (c : Char) : Bool := c = '\t' || c = '\n' || c = '\x0c' || c = '\r'

/-- Characters that stand for themselves. -/
def isPlain (c : Char) : Bool := 0x20 ≤ c.toNat && c.toNat ≠ 0x7F || isSpacing c

/-- How much of a control sequence has been seen. -/
inductive Sequence where
  | none
  /-- An escape character. -/
  | escape
  /-- An escape character and what may come before the last character. -/
  | escapeMiddle
  /-- A control function, up to its last character. -/
  | function
  /-- A command for the system, up to a bell. -/
  | command
  /-- The start of a string for the device, up to its parameters. -/
  | device
  | deviceParameters
  | deviceMiddle
  /-- A string, up to its terminator. -/
  | string
  deriving DecidableEq, Repr

namespace Sequence

private def within (first last : Nat) (c : Char) : Bool := first ≤ c.toNat && c.toNat ≤ last

/-- Strings end at the octet 9C, also if it is one of those that a character is written with. -/
def terminates (c : Char) : Bool := 0x9C ∈ String.utf8EncodeChar c

/-- Goes on with a sequence. Characters that do not belong there are passed over. -/
def next : Sequence → Char → Sequence
  | none, _ => none
  | escape, c =>
    if c = '[' then function
    else if c = ']' then command
    else if c = 'P' then device
    else if c = 'X' ∨ c = '^' ∨ c = '_' then string
    else if within 0x20 0x2F c then escapeMiddle
    else if within 0x30 0x7E c then none
    else escape
  | escapeMiddle, c => if within 0x30 0x7E c then none else escapeMiddle
  | function, c => if within 0x40 0x7E c then none else function
  | command, c => if c = '\x07' then none else command
  | device, c =>
    if within 0x20 0x2F c then deviceMiddle
    else if within 0x30 0x3F c then deviceParameters
    else if within 0x40 0x7E c then string
    else device
  | deviceParameters, c =>
    if within 0x20 0x2F c then deviceMiddle
    else if within 0x3C 0x7E c then string
    else deviceParameters
  | deviceMiddle, c => if within 0x30 0x7E c then string else deviceMiddle
  | string, c => if terminates c then none else string

/-- Spacing shows through a sequence unless the sequence carries text of its own. -/
def isSheer : Sequence → Bool
  | none | escape | escapeMiddle | function => true
  | command | device | deviceParameters | deviceMiddle | string => false

end Sequence

/-- What is shown of a text that begins inside a sequence. Spacing that shows through breaks the
sequence off, for good or, if sequences are resumed, until the next control character. -/
def shownFrom (resumed : Bool) : (broken current : Sequence) → List Char → List Char
  | _, _, [] => []
  | broken, current, c :: rest =>
    if c = '\x18' ∨ c = '\x1a' then shownFrom resumed .none .none rest
    else if c = '\x1b' then shownFrom resumed .none .escape rest
    else if current = .none then
      if isPlain c then c :: shownFrom resumed (if c.toNat < 0x80 then broken else .none) .none rest
      else shownFrom resumed .none broken rest
    else if current.isSheer ∧ isSpacing c then
      c :: shownFrom resumed (if resumed then current else .none) .none rest
    else shownFrom resumed .none (current.next c) rest

/-- What is shown of a text. -/
def shown (resumed : Bool) (text : String) : String :=
  String.ofList (shownFrom resumed .none .none text.toList)

theorem shownFrom_of_plain (resumed : Bool) {cs : List Char} (plain : ∀ c ∈ cs, isPlain c = true) :
    shownFrom resumed .none .none cs = cs := by
  induction cs with
  | nil => rfl
  | cons c rest ih =>
    have here := plain c List.mem_cons_self
    have later := ih fun d member => plain d (List.mem_cons_of_mem c member)
    have notCancel : ¬ (c = '\x18' ∨ c = '\x1a') := by rintro (rfl | rfl) <;> simp [isPlain, isSpacing] at here
    have notEscape : c ≠ '\x1b' := by rintro rfl; simp [isPlain, isSpacing] at here
    simp [shownFrom, notCancel, notEscape, here, later]

/-- A text of plain characters is shown as it is. -/
theorem shown_of_plain (resumed : Bool) {text : String} (plain : ∀ c ∈ text.toList, isPlain c = true) :
    shown resumed text = text := by
  rw [shown, shownFrom_of_plain resumed plain, String.ofList_toList]

end NanAdapter.Text
