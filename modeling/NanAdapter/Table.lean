import NanAdapter.Json.Document
import NanAdapter.Text.Decimal

/-! Tables: finite maps whose keys have a number and are kept in its order. A table is the list of
its entries, so tables with the same entries are the same. -/

namespace NanAdapter

/-- Keys with a number of their own. -/
class Numbered (κ : Type) where
  number : κ → Nat
  number_injective : ∀ {a b : κ}, number a = number b → a = b

export Numbered (number)

instance : Numbered UInt32 := ⟨UInt32.toNat, fun same => UInt32.toNat_inj.mp same⟩

structure Table (κ ν : Type) [Numbered κ] where
  toList : List (κ × ν)
  ascending : toList.Pairwise fun a b => number a.1 < number b.1

namespace Table
variable {κ ν : Type} [Numbered κ]

instance [DecidableEq κ] [DecidableEq ν] : DecidableEq (Table κ ν) := fun s t =>
  decidable_of_iff (s.toList = t.toList) ⟨fun same => by cases s; cases t; cases same; rfl, fun same => by rw [same]⟩

def empty : Table κ ν := ⟨[], .nil⟩

instance : Inhabited (Table κ ν) := ⟨empty⟩

/-- Puts an entry in its place, where it replaces the one with the same number. -/
def insertEntry (k : κ) (v : ν) : List (κ × ν) → List (κ × ν)
  | [] => [(k, v)]
  | other :: rest =>
    if number k < number other.1 then (k, v) :: other :: rest
    else if number k = number other.1 then (k, v) :: rest
    else other :: insertEntry k v rest

theorem mem_insertEntry {k : κ} {v : ν} {entries : List (κ × ν)} {entry : κ × ν}
    (member : entry ∈ insertEntry k v entries) : entry = (k, v) ∨ entry ∈ entries := by
  induction entries with
  | nil => exact Or.inl (by simpa [insertEntry] using member)
  | cons other rest ih =>
    simp only [insertEntry] at member
    split at member
    · simpa using member
    · split at member
      · rcases List.mem_cons.mp member with same | later
        · exact Or.inl same
        · exact Or.inr (List.mem_cons_of_mem _ later)
      · rcases List.mem_cons.mp member with same | later
        · exact Or.inr (same ▸ List.mem_cons_self)
        · exact (ih later).imp_right (List.mem_cons_of_mem _)

theorem ascending_insertEntry (k : κ) (v : ν) {entries : List (κ × ν)}
    (ascending : entries.Pairwise fun a b => number a.1 < number b.1) :
    (insertEntry k v entries).Pairwise fun a b => number a.1 < number b.1 := by
  induction entries with
  | nil => simp [insertEntry]
  | cons other rest ih =>
    obtain ⟨above, later⟩ := List.pairwise_cons.mp ascending
    simp only [insertEntry]
    split
    · rename_i below
      refine List.pairwise_cons.mpr ⟨fun entry member => ?_, ascending⟩
      rcases List.mem_cons.mp member with rfl | member
      · exact below
      · exact Nat.lt_trans below (above entry member)
    · split
      · rename_i same
        exact List.pairwise_cons.mpr ⟨fun entry member => same ▸ above entry member, later⟩
      · rename_i notBelow notSame
        refine List.pairwise_cons.mpr ⟨fun entry member => ?_, ih later⟩
        rcases mem_insertEntry member with rfl | member
        · exact Nat.lt_of_le_of_ne (Nat.le_of_not_lt notBelow) (Ne.symm notSame)
        · exact above entry member

def insert (t : Table κ ν) (k : κ) (v : ν) : Table κ ν :=
  ⟨insertEntry k v t.toList, ascending_insertEntry k v t.ascending⟩

def erase (t : Table κ ν) (k : κ) : Table κ ν :=
  ⟨t.toList.filter fun entry => number entry.1 ≠ number k, t.ascending.filter _⟩

def get? (t : Table κ ν) (k : κ) : Option ν :=
  (t.toList.find? fun entry => number entry.1 = number k).map (·.2)

def contains (t : Table κ ν) (k : κ) : Bool := (t.get? k).isSome

def size (t : Table κ ν) : Nat := t.toList.length

def isEmpty (t : Table κ ν) : Bool := t.toList.isEmpty

/-- One member for each entry, named by the number of its key. -/
def json (t : Table κ ν) (value : ν → Json) : Json :=
  .object (t.toList.map fun (k, v) => (Text.decimal (number k), value v))

@[simp] theorem get?_empty (k : κ) : (empty : Table κ ν).get? k = none := rfl

theorem find?_insertEntry (k j : κ) (v : ν) (entries : List (κ × ν)) :
    (insertEntry k v entries).find? (fun entry => number entry.1 = number j) =
      if number j = number k then some (k, v) else entries.find? fun entry => number entry.1 = number j := by
  induction entries with
  | nil => by_cases same : number j = number k <;> simp [insertEntry, same, eq_comm]
  | cons other rest ih =>
    simp only [insertEntry]
    split
    · by_cases same : number j = number k
      · simp [same]
      · simp [same, Ne.symm same]
    · split
      · rename_i known
        by_cases same : number j = number k
        · simp [same]
        · have different : ¬ number other.1 = number j := fun h => same (h.symm.trans known.symm)
          simp [same, Ne.symm same, different]
      · rename_i unlike
        by_cases first : number other.1 = number j
        · have different : ¬ number j = number k := fun h => unlike (h.symm.trans first.symm)
          simp [first, different]
        · simp [first, ih]

theorem get?_insert (t : Table κ ν) (k j : κ) (v : ν) :
    (t.insert k v).get? j = if number j = number k then some v else t.get? j := by
  by_cases same : number j = number k <;> simp [get?, insert, find?_insertEntry, same]

theorem get?_erase (t : Table κ ν) (k j : κ) :
    (t.erase k).get? j = if number j = number k then none else t.get? j := by
  simp only [get?, erase, List.find?_filter]
  by_cases same : number j = number k
  · simp [same]
  · rw [if_neg same]
    congr 2
    funext entry
    by_cases here : number entry.1 = number j <;> simp [here, same]

private theorem find?_below {n : Nat} {entries : List (κ × ν)} (below : ∀ entry ∈ entries, n < number entry.1) :
    entries.find? (fun entry => number entry.1 = n) = none := by
  rw [List.find?_eq_none]
  intro entry member
  have above := below entry member
  simp only [decide_eq_true_eq]
  omega

private theorem entries_ext {first second : List (κ × ν)}
    (ascending : first.Pairwise fun a b => number a.1 < number b.1)
    (ascending' : second.Pairwise fun a b => number a.1 < number b.1)
    (same : ∀ k : κ, (first.find? fun entry => number entry.1 = number k).map (·.2) =
      (second.find? fun entry => number entry.1 = number k).map (·.2)) : first = second := by
  induction first generalizing second with
  | nil =>
    cases second with
    | nil => rfl
    | cons entry rest => simpa using same entry.1
  | cons entry rest ih =>
    cases second with
    | nil => simpa using same entry.1
    | cons other later =>
      obtain ⟨above, behind⟩ := List.pairwise_cons.mp ascending
      obtain ⟨above', behind'⟩ := List.pairwise_cons.mp ascending'
      -- whichever head came first would be missing from the other list
      have level : number entry.1 = number other.1 := by
        rcases Nat.lt_trichotomy (number entry.1) (number other.1) with before | level | after
        · have missing : (other :: later).find? (fun known => number known.1 = number entry.1) = none :=
            find?_below (by simpa [before] using fun k v member => Nat.lt_trans before (above' (k, v) member))
          simpa [missing] using same entry.1
        · exact level
        · have missing : (entry :: rest).find? (fun known => number known.1 = number other.1) = none :=
            find?_below (by simpa [after] using fun k v member => Nat.lt_trans after (above (k, v) member))
          simpa [missing] using same other.1
      have heads : entry = other := by
        have values : entry.2 = other.2 := by simpa [level] using same other.1
        exact Prod.ext (Numbered.number_injective level) values
      subst heads
      refine congrArg (entry :: ·) (ih behind behind' fun k => ?_)
      by_cases here : number entry.1 = number k
      · rw [find?_below fun later member => here ▸ above later member,
          find?_below fun later member => here ▸ above' later member]
      · simpa [here] using same k

/-- A table is determined by what is found in it. -/
theorem ext_get? {s t : Table κ ν} (same : ∀ k, s.get? k = t.get? k) : s = t := by
  cases s with
  | mk entries ascending =>
    cases t with
    | mk others ascending' =>
      have agree : entries = others := entries_ext ascending ascending' same
      subst agree
      rfl

end Table

end NanAdapter
