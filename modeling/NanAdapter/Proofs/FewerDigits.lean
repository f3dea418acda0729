import NanAdapter.Proofs.Rounding
import NanAdapter.Json.Numeral

/-! A number without exponent is not too large if with more digits it was not. What is missing makes it smaller, or
stands for digits that are not kept anyway. -/

namespace NanAdapter

namespace Json

/-! What is kept of a run of digits -/

namespace Kept

def next (kept : Kept) (d : Char) : Nat := 10 * kept.digits + (d.toNat - '0'.toNat)

def take (kept : Kept) (d : Char) : Kept :=
  if kept.left = 0 ∧ kept.next d < UInt64.size then ⟨kept.next d, kept.taken + 1, 0⟩
  else { kept with left := kept.left + 1 }

/-- The least number with which a digit may not fit any more. -/
def crowded : Nat := 1844674407370955161

/-- Digits are left out only when there is no room for them. -/
structure Sound (kept : Kept) : Prop where
  small : kept.digits < UInt64.size
  crowded : kept.left ≠ 0 → crowded ≤ kept.digits

theorem digit_le {d : Char} (digit : d.isDigit = true) : d.toNat - '0'.toNat ≤ 9 := by
  have bounds : 48 ≤ d.toNat ∧ d.toNat ≤ 57 := Char.isDigit_iff_toNat.mp digit
  change d.toNat - 48 ≤ 9
  omega

theorem Sound.take {kept : Kept} (sound : kept.Sound) {d : Char} (digit : d.isDigit = true) : (kept.take d).Sound := by
  have value := digit_le digit
  rw [Kept.take]
  split
  next fits => exact ⟨fits.2, fun impossible => absurd rfl impossible⟩
  next beyond =>
    refine ⟨sound.small, fun _ => ?_⟩
    by_cases none : kept.left = 0
    · have large : UInt64.size ≤ kept.next d := Nat.le_of_not_lt fun fits => beyond ⟨none, fits⟩
      rw [next, UInt64.size] at large
      change Kept.crowded ≤ kept.digits
      rw [Kept.crowded]
      omega
    · exact sound.crowded none

theorem Sound.foldl {ds : List Char} (digits : ∀ d ∈ ds, d.isDigit = true) {kept : Kept} (sound : kept.Sound) :
    (ds.foldl Kept.take kept).Sound := by
  induction ds generalizing kept with
  | nil => exact sound
  | cons d ds ih =>
    obtain ⟨digit, digits⟩ := List.forall_mem_cons.mp digits
    exact ih digits (sound.take digit)

/-- No digit is taken on any more. -/
def Full (kept : Kept) : Prop := kept.left ≠ 0 ∨ UInt64.size ≤ 10 * kept.digits

theorem Full.foldl {kept : Kept} (full : kept.Full) (ds : List Char) :
    ∃ left ≥ kept.left, ds.foldl take kept = { kept with left } := by
  induction ds generalizing kept with
  | nil => exact ⟨kept.left, Nat.le_refl _, rfl⟩
  | cons d ds ih =>
    have beyond : ¬ (kept.left = 0 ∧ kept.next d < UInt64.size) := by
      rw [next]
      rcases full with left | large
      · exact fun fits => left fits.1
      · omega
    rw [List.foldl_cons, take, if_neg beyond]
    obtain ⟨left, more, same⟩ := @ih { kept with left := kept.left + 1 } (.inl (Nat.succ_ne_zero _))
    exact ⟨left, Nat.le_of_succ_le more, same⟩

end Kept

theorem keep_eq_foldl (start : Nat) (ds : List Char) : keep start ds = ds.foldl Kept.take ⟨start, 0, 0⟩ := rfl

theorem keep_append (start : Nat) (ds es : List Char) : keep start (ds ++ es) = es.foldl Kept.take (keep start ds) := by
  rw [keep_eq_foldl, List.foldl_append]
  rfl

theorem keep_sound (start : Nat) (small : start < UInt64.size) {ds : List Char} (digits : ∀ d ∈ ds, d.isDigit = true) :
    (keep start ds).Sound :=
  Kept.Sound.foldl digits ⟨small, fun impossible => absurd rfl impossible⟩

theorem le_ofDigitChars (start : Nat) (ds : List Char) : start ≤ Nat.ofDigitChars 10 ds start := by
  induction ds generalizing start with
  | nil => exact Nat.le_of_eq Nat.ofDigitChars_nil.symm
  | cons d ds ih =>
    rw [Nat.ofDigitChars_cons]
    exact Nat.le_trans (by omega) (ih _)

/-- A small number is kept as a whole. -/
theorem keep_left {start : Nat} {ds : List Char} (small : Nat.ofDigitChars 10 ds start < UInt64.size) :
    (keep start ds).left = 0 := by
  have left (taken : Nat) : (ds.foldl Kept.take ⟨start, taken, 0⟩).left = 0 := by
    induction ds generalizing start taken with
    | nil => rfl
    | cons d ds ih =>
      rw [Nat.ofDigitChars_cons] at small
      have fits := Nat.lt_of_le_of_lt (le_ofDigitChars _ ds) small
      rw [List.foldl_cons, Kept.take, if_pos ⟨rfl, fits⟩]
      exact ih small (taken + 1)
  exact left 0

/-- After so many digits at most one more is kept, and the first of them decides. -/
theorem keep_crowded {start : Nat} (crowded : Kept.crowded ≤ start) {ds : List Char} (present : ds ≠ [])
    (es : List Char) :
    (keep start (ds ++ es)).digits = (keep start ds).digits ∧ (keep start (ds ++ es)).taken = (keep start ds).taken ∧
      ((keep start ds).digits = start ∧ (keep start ds).taken = 0 ∨
        start = Kept.crowded ∧ 10 * start ≤ (keep start ds).digits ∧ (keep start ds).taken = 1) := by
  obtain ⟨d, ds, rfl⟩ := List.exists_cons_of_ne_nil present
  have first : (Kept.take ⟨start, 0, 0⟩ d).Full ∧
      ((Kept.take ⟨start, 0, 0⟩ d).digits = start ∧ (Kept.take ⟨start, 0, 0⟩ d).taken = 0 ∨
        start = Kept.crowded ∧ 10 * start ≤ (Kept.take ⟨start, 0, 0⟩ d).digits ∧
          (Kept.take ⟨start, 0, 0⟩ d).taken = 1) := by
    rw [Kept.crowded] at crowded ⊢
    rw [Kept.take]
    split
    next fits =>
      have small : 10 * start + (d.toNat - '0'.toNat) < UInt64.size := fits.2
      rw [UInt64.size] at small
      refine ⟨.inr ?_, .inr ⟨?_, ?_, rfl⟩⟩
      · change UInt64.size ≤ 10 * (10 * start + _)
        rw [UInt64.size]
        omega
      · omega
      · exact Nat.le_add_right _ _
    next => exact ⟨.inl (Nat.succ_ne_zero _), .inl ⟨rfl, rfl⟩⟩
  obtain ⟨full, kept⟩ := first
  obtain ⟨_, -, short⟩ := full.foldl ds
  obtain ⟨_, -, long⟩ := full.foldl (ds ++ es)
  rw [keep_eq_foldl, keep_eq_foldl, List.cons_append, List.foldl_cons, List.foldl_cons, short, long]
  exact ⟨rfl, rfl, kept⟩

namespace Numeral

section Parts
variable {n : Numeral} {digits : Nat}

theorem real?_of_le {power : Int} (same : n.parts = (digits, power)) (small : digits < UInt64.size)
    (low : power ≤ 288) : n.real?.isSome := by
  rw [real?, same]
  dsimp only
  split
  next => rfl
  next present =>
    split
    next => omega
    next =>
      split
      next =>
        have size : digits.log2 < 64 := (Nat.log2_lt present).mpr small
        have tens : (10 ^ power.toNat).log2 ≤ 956 :=
          Nat.le_trans (log2_mono (Nat.pow_le_pow_right (by decide) (by omega : _ ≤ 288))) (by decide +kernel)
        have finite := Binary64.isFinite_of_log2 n.negative present
          (by omega : digits.log2 + (10 ^ power.toNat).log2 ≤ 1019)
        rw [Option.filter_some, if_pos finite]
        rfl
      next =>
        split
        next => rfl
        next => split <;> rfl

private theorem mul_pow_le {least power spare total : Nat} (above : least * 10 ^ spare ≤ digits)
    (high : total ≤ power + spare) : least * 10 ^ total ≤ digits * 10 ^ power := by
  calc least * 10 ^ total
    _ ≤ least * 10 ^ (spare + power) := Nat.mul_le_mul_left _ (Nat.pow_le_pow_right (by decide) (by omega))
    _ = least * 10 ^ spare * 10 ^ power := by rw [Nat.pow_add, Nat.mul_assoc]
    _ ≤ digits * 10 ^ power := Nat.mul_le_mul_right _ above

/-- With so many digits, only so many more zeros can follow. -/
theorem lt_of_real? {power spare : Nat} (same : n.parts = (digits, (power : Int))) (wide : 16 ≤ power)
    (crowded : Kept.crowded * 10 ^ spare ≤ digits) (readable : n.real?.isSome) : power + spare < 290 := by
  apply Nat.lt_of_not_le
  intro high
  have most : Kept.crowded ≤ digits := Nat.le_trans (Nat.le_mul_of_pos_right _ (Nat.pow_pos (by decide))) crowded
  have large := mul_pow_le crowded high
  have long : 53 ≤ digits.log2 := Nat.le_trans (by decide +kernel : 53 ≤ Kept.crowded.log2) (log2_mono most)
  have present : digits ≠ 0 := by
    rintro rfl
    exact absurd most (by decide)
  have beyond : 1126 ≤ (Kept.crowded * 10 ^ 290 * (2 ^ 51 - 1) ^ 2).log2 := by decide +kernel
  have wide : 53 ≤ (10 ^ power).log2 :=
    Nat.le_trans (by decide +kernel : 53 ≤ (10 ^ 16).log2) (log2_mono (Nat.pow_le_pow_right (by decide) wide))
  have infinite := Binary64.not_isFinite_of_le n.negative present beyond large long wide
  rw [real?, same] at readable
  dsimp only at readable
  rw [if_neg present, if_pos (Int.natCast_nonneg power), Int.toNat_natCast, Option.filter_some, infinite] at readable
  split at readable <;> cases readable

end Parts

theorem real?_congr {n m : Numeral} (signs : n.negative = m.negative) (parts : n.parts = m.parts) :
    n.real? = m.real? := by
  rw [real?, real?, signs, parts]

section Plain
variable (negative : Bool) {whole fraction ds es : List Char}

theorem parts_plain : (Numeral.mk negative whole fraction none).parts =
    ((keep (keep 0 whole).digits fraction).digits,
      ((keep 0 whole).left : Int) - (keep (keep 0 whole).digits fraction).taken) := by
  simp [parts]

theorem parts_whole : (Numeral.mk negative ds [] none).parts = ((keep 0 ds).digits, ((keep 0 ds).left : Int)) := by
  rw [parts_plain]
  exact Prod.ext rfl (Int.sub_zero _)

theorem real?_of_integer? {n : Numeral} {value : Int} (digits : ∀ d ∈ n.whole, d.isDigit = true)
    (spelled : n.integer? = some value) : n.real?.isSome := by
  obtain ⟨negative, whole, fraction, exponent⟩ := n
  rw [integer?] at spelled
  split at spelled
  next plain =>
    obtain ⟨rfl, rfl⟩ := plain
    have small : Nat.ofDigitChars 10 whole 0 < UInt64.size := by
      dsimp only at spelled
      split at spelled <;> split at spelled
      next fits => omega
      next => cases spelled
      next fits => exact fits
      next => cases spelled
    have none := keep_left small
    have sound := keep_sound 0 (by decide) digits
    exact real?_of_le (parts_whole negative) sound.small (by omega)
  next => cases spelled

/-- The greatest power that so many digits can have. -/
private theorem real?_crowded (digits : (keep 0 ds).digits = Kept.crowded) (left : (keep 0 ds).left = 289) :
    (Numeral.mk negative ds [] none).real?.isSome := by
  rw [real?, parts_whole, digits, left]
  dsimp only
  cases negative <;> decide +kernel

/-- Digits before the point that are missing. -/
theorem real?_of_whole (begins : ds <+: whole) (digits : ∀ d ∈ whole, d.isDigit = true) (fraction : List Char)
    (readable : (Numeral.mk negative whole fraction none).real?.isSome) :
    (Numeral.mk negative ds [] none).real?.isSome := by
  obtain ⟨es, rfl⟩ := begins
  have sound := keep_sound 0 (by decide) (fun d member => digits d (List.mem_append_left es member))
  by_cases low : (keep 0 ds).left ≤ 288
  · exact real?_of_le (parts_whole negative) sound.small (by omega)
  · have crowded := sound.crowded (by omega)
    obtain ⟨left, more, long⟩ := Kept.Full.foldl (.inl (by omega : (keep 0 ds).left ≠ 0)) es
    have parts : (Numeral.mk negative (ds ++ es) fraction none).parts =
        ((keep (keep 0 ds).digits fraction).digits, (left : Int) - (keep (keep 0 ds).digits fraction).taken) := by
      rw [parts_plain, keep_append, long]
    have kept : (keep (keep 0 ds).digits fraction).digits = (keep 0 ds).digits ∧
        (keep (keep 0 ds).digits fraction).taken = 0 ∨ (keep 0 ds).digits = Kept.crowded ∧
          10 * (keep 0 ds).digits ≤ (keep (keep 0 ds).digits fraction).digits ∧
            (keep (keep 0 ds).digits fraction).taken = 1 := by
      cases fraction with
      | nil => exact .inl ⟨rfl, rfl⟩
      | cons f fs => exact (keep_crowded crowded (List.cons_ne_nil f fs) []).2.2
    rcases kept with ⟨value, none⟩ | ⟨value, larger, one⟩
    · rw [value, none] at parts
      have few := lt_of_real? (parts.trans (by simp : _ = (_, (left : Int)))) (by omega)
        (crowded.trans' (by simp) : _ * 10 ^ 0 ≤ _) readable
      have all : left = (keep 0 ds).left := by omega
      have same := real?_congr (n := ⟨negative, ds, [], Option.none⟩)
        (m := ⟨negative, ds ++ es, fraction, Option.none⟩) rfl
        (by rw [parts_whole, parts, all]; simp)
      rwa [same]
    · rw [one] at parts
      have less : (left : Int) - (1 : Nat) = (left - 1 : Nat) := by omega
      rw [less] at parts
      have most : Kept.crowded * 10 ^ 1 ≤ (keep (keep 0 ds).digits fraction).digits := by
        rw [← value, Nat.pow_one, Nat.mul_comm]
        exact larger
      have few := lt_of_real? parts (by omega) most readable
      exact real?_crowded negative value (by omega)

/-- Digits after the point that are missing. -/
theorem real?_of_fraction (digits : ∀ d ∈ whole, d.isDigit = true) (others : ∀ d ∈ ds, d.isDigit = true)
    (present : ds ≠ []) (es : List Char) (readable : (Numeral.mk negative whole (ds ++ es) none).real?.isSome) :
    (Numeral.mk negative whole ds none).real?.isSome := by
  have sound := keep_sound 0 (by decide) digits
  by_cases all : (keep 0 whole).left = 0
  · have small := (keep_sound _ sound.small others).small
    exact real?_of_le (parts_plain negative) small (by omega)
  · obtain ⟨value, taken, -⟩ := keep_crowded (sound.crowded all) present es
    have same := real?_congr (n := ⟨negative, whole, ds, none⟩) (m := ⟨negative, whole, ds ++ es, none⟩) rfl
      (by rw [parts_plain, parts_plain, value, taken])
    rwa [same]

end Plain

end Numeral

end Json

end NanAdapter
