import NanAdapter.Text.Blank
import NanAdapter.Schema.Basic

/-! Revisions of the callback interface. They are ordered, and a HAL that has one has all below it.
-/

namespace NanAdapter

inductive Revision where
  | v1_0
  | v1_2
  | v1_5
  | v1_6
  deriving DecidableEq, Repr, Inhabited

namespace Revision

/-- Lowest first. -/
def all : List Revision := [.v1_0, .v1_2, .v1_5, .v1_6]

def text : Revision → String
  | .v1_0 => "1.0"
  | .v1_2 => "1.2"
  | .v1_5 => "1.5"
  | .v1_6 => "1.6"

/-- The place among all revisions, as it is stored in one octet. -/
def code : Revision → UInt8
  | .v1_0 => 0
  | .v1_2 => 1
  | .v1_5 => 2
  | .v1_6 => 3

def ofCode? : UInt8 → Option Revision
  | 0 => some .v1_0
  | 1 => some .v1_2
  | 2 => some .v1_5
  | 3 => some .v1_6
  | _ => none

theorem ofCode?_code (r : Revision) : ofCode? r.code = some r := by cases r <;> rfl

instance : LE Revision := ⟨fun a b => a.code ≤ b.code⟩
instance : LT Revision := ⟨fun a b => a.code < b.code⟩
instance (a b : Revision) : Decidable (a ≤ b) := inferInstanceAs (Decidable (a.code ≤ b.code))
instance (a b : Revision) : Decidable (a < b) := inferInstanceAs (Decidable (a.code < b.code))
instance : Max Revision := ⟨fun a b => if a ≤ b then b else a⟩

def compare (a b : Revision) : Ordering :=
  if a < b then .lt else if a = b then .eq else .gt

/-- The revision of a bare number, in which an underscore may stand for the point. -/
def ofNumber? (cs : List Char) : Option Revision :=
  let dotted := cs.map fun c => if c = '_' then '.' else c
  if dotted = "1.0".toList ∨ dotted = "1".toList then some .v1_0
  else if dotted = "1.2".toList then some .v1_2
  else if dotted = "1.5".toList then some .v1_5
  else if dotted = "1.6".toList then some .v1_6
  else none

/-- A text that names no revision. -/
structure Unknown where
  text : String
  deriving DecidableEq, Repr

def Unknown.message (e : Unknown) : String :=
  "Unknown HAL revision '" ++ e.text ++ "' (expected one of 1.0, 1.2, 1.5, 1.6)"

/-- The revision that a text names. It may have blanks around it and one letter `v` before it. -/
def ofText (text : String) : Except Unknown Revision :=
  let number := match Text.trim text.toList with
    | 'v' :: rest | 'V' :: rest => rest
    | cs => cs
  match ofNumber? number with
  | some r => .ok r
  | none => .error ⟨text⟩

def names : Names Revision := ⟨all, text⟩

def schema : Schema Revision := .symbol names

end Revision

end NanAdapter
