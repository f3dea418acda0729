import NanAdapter.Json.Document

/-! Schemas: what documents of a type look like. One schema serves for reading and for writing. -/

namespace NanAdapter

/-- The integers of a fixed-width type. -/
structure Width (α : Type) where
  name : String
  ofInt? : Int → Option α
  toInt : α → Int

namespace Width

private def upTo (limit : Nat) (make : Nat → α) (value : Int) : Option α :=
  if 0 ≤ value ∧ value < limit then some (make value.toNat) else none

def u8 : Width UInt8 := ⟨"u8", upTo UInt8.size UInt8.ofNat, fun n => n.toNat⟩

def u16 : Width UInt16 := ⟨"u16", upTo UInt16.size UInt16.ofNat, fun n => n.toNat⟩

def u32 : Width UInt32 := ⟨"u32", upTo UInt32.size UInt32.ofNat, fun n => n.toNat⟩

/-- Sizes have 64 bits. -/
def usize : Width UInt64 := ⟨"usize", upTo UInt64.size UInt64.ofNat, fun n => n.toNat⟩

def i32 : Width Int32 :=
  ⟨"i32",
    fun value =>
      if Int32.minValue.toInt ≤ value ∧ value ≤ Int32.maxValue.toInt then some (Int32.ofInt value) else none,
    Int32.toInt⟩

private theorem upTo_of_lt {n limit : Nat} {make : Nat → α} {value : α} (small : n < limit) (same : make n = value) :
    upTo limit make n = some value := by
  rw [upTo, if_pos ⟨Int.natCast_nonneg n, Int.ofNat_lt.mpr small⟩, Int.toNat_natCast, same]

theorem ofInt?_u8 (value : UInt8) : u8.ofInt? (u8.toInt value) = some value := by
  simp only [u8]
  exact upTo_of_lt value.toNat_lt UInt8.ofNat_toNat

theorem ofInt?_u16 (value : UInt16) : u16.ofInt? (u16.toInt value) = some value := by
  simp only [u16]
  exact upTo_of_lt value.toNat_lt UInt16.ofNat_toNat

theorem ofInt?_u32 (value : UInt32) : u32.ofInt? (u32.toInt value) = some value := by
  simp only [u32]
  exact upTo_of_lt value.toNat_lt UInt32.ofNat_toNat

theorem ofInt?_i32 (value : Int32) : i32.ofInt? (i32.toInt value) = some value := by
  simp only [i32, value.minValue_le_toInt, value.toInt_le, and_self, if_true, Int32.ofInt_toInt]

end Width

/-- The members of a closed list and their names. -/
structure Names (κ : Type) where
  all : List κ
  name : κ → String

namespace Names

def find? (names : Names κ) (text : String) : Option κ :=
  names.all.find? fun k => names.name k = text

def list (names : Names κ) : List String := names.all.map names.name

/-- The places in the list, counted from zero. -/
def places (names : Names κ) : String := "variant index 0 <= i < " ++ Text.decimal names.all.length

end Names

/-- Two forms of the same value. -/
structure Shape (β α : Type) where
  pack : β → α
  unpack : α → β

mutual
inductive Schema : Type → Type 1 where
  | integer {α : Type} (width : Width α) : Schema α
  | boolean : Schema Bool
  | text : Schema String
  | optional {α : Type} (value : Schema α) : Schema (Option α)
  | list {α : Type} (item : Schema α) : Schema (List α)
  /-- An array of exactly that many elements. -/
  | fixed {α : Type} (count : Nat) (item : Schema α) : Schema (Vector α count)
  /-- One name of a closed list. -/
  | symbol {κ : Type} (names : Names κ) : Schema κ
  | record {α β σ : Type} (name : String) (fields : Fields β σ) (shape : Shape β α) : Schema α
  /-- An object whose tag says what its other members are, and what they are called together. -/
  | tagged {α κ : Type} {body slots : κ → Type} (name tag : String) (names : Names κ) (title : κ → String)
      (fields : (k : κ) → Fields (body k) (slots k)) (shape : Shape ((k : κ) × body k) α) : Schema α
  /-- A tag, and beside it one member with the content that the tag stands for. -/
  | adjacent {α κ : Type} {body : κ → Type} (name tag content : String) (names : Names κ)
      (schema : (k : κ) → Schema (body k)) (shape : Shape ((k : κ) × body k) α) : Schema α
  /-- The documents of another type. -/
  | via {α β : Type} (shape : Shape β α) (inner : Schema β) : Schema α

/-- The members of a record in their order: the values they hold, and the slots that fill up while
they are read. -/
inductive Fields : Type → Type → Type 1 where
  | done : Fields Unit Unit
  | cons {α β σ : Type} (name : String) (value : Schema α) (default : Option α) (rest : Fields β σ) :
      Fields (α × β) (Option α × σ)
end

namespace Fields

/-- A member that has to be there. -/
def need {α β σ : Type} (name : String) (value : Schema α) (rest : Fields β σ) : Fields (α × β) (Option α × σ) :=
  .cons name value none rest

/-- A member that may be missing. -/
def may {α β σ : Type} (name : String) (value : Schema α) (default : α) (rest : Fields β σ) :
    Fields (α × β) (Option α × σ) :=
  .cons name value (some default) rest

def length : Fields β σ → Nat
  | .done => 0
  | .cons _ _ _ rest => rest.length + 1

/-- Nothing read yet. -/
def vacant : Fields β σ → σ
  | .done => ()
  | .cons _ _ _ rest => (none, rest.vacant)

/-- The values of all slots. Of the members that are missing the first in order is blamed. -/
def fill : Fields β σ → σ → Except Fault β
  | .done, () => .ok ()
  | .cons name _ default rest, (slot, slots) =>
    match slot.or default with
    | some value => (rest.fill slots).map (value, ·)
    | none => .error (.refused (.missing name))

end Fields

namespace Schema

def u8 : Schema UInt8 := .integer .u8
def u16 : Schema UInt16 := .integer .u16
def u32 : Schema UInt32 := .integer .u32
def i32 : Schema Int32 := .integer .i32
def usize : Schema UInt64 := .integer .usize

/-- Raw octets, or none. -/
def payload : Schema (Option (List UInt8)) := .optional (.list u8)

/-- What a missing document of this schema stands for. -/
def absent? : {α : Type} → Schema α → Option α
  | _, .optional _ => some none
  | _, _ => none

end Schema

end NanAdapter
