import Mathlib.Data.Nat.Log
import Mathlib.Tactic.Ring
import NanAdapter.Json.Numeral

/-! How far a number is from what it is rounded to, and which products of rounded numbers are too large. Products
between the two bounds are not decided here. -/

namespace NanAdapter

theorem log2_mul_two_pow {n : Nat} (present : n ≠ 0) (k : Nat) : (n * 2 ^ k).log2 = n.log2 + k := by
  have scaled : n * 2 ^ k ≠ 0 := Nat.mul_ne_zero present (Nat.two_pow_pos k).ne'
  refine (Nat.log2_eq_iff scaled).mpr ⟨?_, ?_⟩
  · rw [Nat.pow_add]
    exact Nat.mul_le_mul_right _ (Nat.log2_self_le present)
  · rw [Nat.add_right_comm, Nat.pow_add]
    exact Nat.mul_lt_mul_of_pos_right Nat.lt_log2_self (Nat.two_pow_pos k)

theorem log2_mono {m n : Nat} (le : m ≤ n) : m.log2 ≤ n.log2 := by
  rw [Nat.log2_eq_log_two, Nat.log2_eq_log_two]
  exact Nat.log_mono_right le

theorem log2_mul_le {m n : Nat} (present : m * n ≠ 0) : (m * n).log2 ≤ m.log2 + n.log2 + 1 := by
  have below : m * n < 2 ^ (m.log2 + n.log2 + 2) := by
    have product : m * n < 2 ^ (m.log2 + 1) * 2 ^ (n.log2 + 1) :=
      Nat.mul_lt_mul_of_lt_of_le Nat.lt_log2_self (Nat.le_of_lt Nat.lt_log2_self) (Nat.two_pow_pos _)
    rw [← Nat.pow_add] at product
    convert product using 2
    omega
  have bounded := (Nat.log2_lt present).mpr below
  omega

namespace Fraction

/-- The place of a fraction among the powers of two. -/
def size (f : Fraction) : Int := f.num.log2 - f.den.log2

private theorem log2_two_pow (k : Nat) : (1 * 2 ^ k).log2 = k := by rw [Nat.one_mul, Nat.log2_two_pow]

theorem size_scale {n : Nat} (present : n ≠ 0) (power : Int) :
    ((Fraction.ofNat n).scale 2 power).size = n.log2 + power := by
  rw [scale, ofNat, size]
  have unit : Nat.log2 1 = 0 := log2_two_pow 0
  split
  next =>
    change ((n * 2 ^ power.toNat).log2 : Int) - (1 : Nat).log2 = _
    rw [log2_mul_two_pow present, unit]
    omega
  next =>
    change (n.log2 : Int) - (1 * 2 ^ (-power).toNat).log2 = _
    rw [log2_two_pow]
    omega

theorem nearest_one (n : Nat) : (Fraction.mk n 1).nearest = n := by
  simp [nearest, Nat.mod_one]

theorem le_nearest (f : Fraction) : f.num / f.den ≤ f.nearest := by
  rw [nearest]
  split <;> omega

theorem nearest_le (f : Fraction) : f.nearest ≤ f.num / f.den + 1 := by
  rw [nearest]
  split <;> omega

end Fraction

namespace Binary64

section Round
variable (negative : Bool) {f : Fraction}

/-- The exponent from which on the digits may fit. -/
private def low (f : Fraction) : Int := max ((f.num.log2 : Int) - f.den.log2 - 53) least

private theorem low_le (f : Fraction) {bound : Int} (small : f.size - 53 ≤ bound) (above : least ≤ bound) :
    low f ≤ bound := by
  rw [Fraction.size] at small
  rw [low]
  omega

private theorem round_exponent (present : f.num ≠ 0) :
    (round negative f).exponent =
      if (f.scale 2 (-low f)).nearest < 1 <<< 53 then low f
      else if (f.scale 2 (-(low f + 1))).nearest < 1 <<< 53 then low f + 1 else low f + 2 := by
  rw [round, if_neg present]
  simp only [decide_eq_true_eq]
  rfl

theorem round_exponent_le {bound : Int} (small : f.size - 51 ≤ bound) (above : least + 2 ≤ bound) :
    (round negative f).exponent ≤ bound := by
  by_cases present : f.num = 0
  · rw [round, if_pos present]
    change least ≤ bound
    omega
  · have lowest := low_le f (by omega : f.size - 53 ≤ bound - 2) (by omega)
    rw [round_exponent negative present]
    split
    next => omega
    next => split <;> omega

theorem low_le_round_exponent (present : f.num ≠ 0) : low f ≤ (round negative f).exponent := by
  rw [round_exponent negative present]
  split
  next => exact Int.le_refl _
  next => split <;> omega

theorem round_digits (present : f.num ≠ 0) :
    (round negative f).digits = (f.scale 2 (-(round negative f).exponent)).nearest := by
  rw [round, if_neg present]

end Round

/-! Whole numbers that are rounded -/

section Whole
variable (negative : Bool) {n : Nat} (present : n ≠ 0)
include present

private theorem size_ofNat : (Fraction.ofNat n).size = n.log2 := by
  have shifted := Fraction.size_scale present 0
  rw [Int.add_zero] at shifted
  rw [← shifted, Fraction.scale, if_pos (Int.le_refl 0)]
  change _ = ((n * 2 ^ 0).log2 : Int) - _
  rw [Nat.pow_zero, Nat.mul_one]
  rfl

/-- A number is at most doubled. -/
theorem log2_round_le :
    ((round negative (.ofNat n)).digits.log2 : Int) + (round negative (.ofNat n)).exponent ≤ n.log2 + 1 := by
  have same := round_digits negative (f := .ofNat n) present
  have bound : (round negative (.ofNat n)).exponent ≤ max ((n.log2 : Int) - 51) (least + 2) := by
    apply round_exponent_le
    · rw [size_ofNat present]
      omega
    · omega
  generalize round negative (.ofNat n) = x at same bound
  rw [least] at bound
  rw [same]
  by_cases exact : 0 ≤ -x.exponent
  · rw [Fraction.scale, if_pos exact]
    change ((Fraction.mk (n * 2 ^ (-x.exponent).toNat) 1).nearest.log2 : Int) + _ ≤ _
    rw [Fraction.nearest_one, log2_mul_two_pow present]
    omega
  · obtain ⟨k, shift⟩ : ∃ k : Nat, x.exponent = k := ⟨x.exponent.toNat, by omega⟩
    rw [Fraction.scale, if_neg exact, shift, Int.neg_neg, Int.toNat_natCast]
    have near : (Fraction.mk n (1 * 2 ^ k)).nearest ≤ n / (1 * 2 ^ k) + 1 := Fraction.nearest_le _
    change ((Fraction.mk n (1 * 2 ^ k)).nearest.log2 : Int) + _ ≤ _
    generalize (Fraction.mk n (1 * 2 ^ k)).nearest = d at near
    rw [Nat.one_mul] at near
    have unit : 2 ^ k ≤ n := Nat.le_trans (Nat.pow_le_pow_right (by omega) (by omega)) (Nat.log2_self_le present)
    have double : d * 2 ^ k ≤ n * 2 ^ 1 := by
      have parts := Nat.mul_le_mul_right (2 ^ k) near
      have whole := Nat.div_mul_le_self n (2 ^ k)
      rw [Nat.add_mul, Nat.one_mul] at parts
      omega
    by_cases nothing : d = 0
    · subst nothing
      change (0 : Int) + k ≤ _
      omega
    · have scaled : d * 2 ^ k ≠ 0 := Nat.mul_ne_zero nothing (Nat.two_pow_pos k).ne'
      have logs := log2_mono double
      rw [log2_mul_two_pow nothing, log2_mul_two_pow present] at logs
      omega

/-- From 2^53 on next to nothing is lost. -/
theorem le_round (long : 53 ≤ n.log2) : ∃ k : Nat, (round negative (.ofNat n)).exponent = k ∧
    n * (2 ^ 51 - 1) ≤ (round negative (.ofNat n)).digits * 2 ^ k * 2 ^ 51 := by
  have same := round_digits negative (f := .ofNat n) present
  have bound : (round negative (.ofNat n)).exponent ≤ (n.log2 : Int) - 51 := by
    apply round_exponent_le
    · rw [size_ofNat present]
    · rw [least]
      omega
  have above := low_le_round_exponent negative (f := .ofNat n) present
  have positive : 0 ≤ low (.ofNat n) := by
    have size := size_ofNat present
    rw [Fraction.size] at size
    rw [low, size]
    omega
  generalize round negative (.ofNat n) = x at same bound above
  obtain ⟨k, shift⟩ : ∃ k : Nat, x.exponent = k := ⟨x.exponent.toNat, by omega⟩
  refine ⟨k, shift, ?_⟩
  have unit : 2 ^ k * 2 ^ 51 ≤ n := by
    rw [← Nat.pow_add]
    exact Nat.le_trans (Nat.pow_le_pow_right (by omega) (by omega)) (Nat.log2_self_le present)
  have near : n < (x.digits + 1) * 2 ^ k := by
    rw [same, shift]
    rcases k.eq_zero_or_pos with rfl | positive
    · change n < ((Fraction.mk (n * 2 ^ 0) 1).nearest + 1) * 2 ^ 0
      rw [Fraction.nearest_one]
      omega
    · rw [Fraction.scale, if_neg (by omega), Int.neg_neg, Int.toNat_natCast]
      have down := Fraction.le_nearest ⟨n, 1 * 2 ^ k⟩
      change n < ((Fraction.mk n (1 * 2 ^ k)).nearest + 1) * 2 ^ k
      refine (Nat.div_lt_iff_lt_mul (Nat.two_pow_pos k)).mp (Nat.lt_succ_of_le ?_)
      rw [Nat.one_mul] at down ⊢
      exact down
  rw [Nat.add_mul, Nat.one_mul] at near
  generalize 2 ^ 51 = weight at unit
  have wide := Nat.mul_le_mul_right weight (Nat.le_of_lt near)
  rw [Nat.add_mul] at wide
  rw [Nat.mul_sub, Nat.mul_one]
  omega

end Whole

/-! Products -/

theorem isFinite_mul {x y : Binary64}
    (small : ((x.digits * y.digits).log2 : Int) + (x.exponent + y.exponent) ≤ 1022) : (mul x y).isFinite = true := by
  rw [isFinite, decide_eq_true_eq, mul]
  by_cases present : x.digits * y.digits = 0
  · have nothing : ((Fraction.ofNat (x.digits * y.digits)).scale 2 (x.exponent + y.exponent)).num = 0 := by
      rw [present, Fraction.scale]
      split
      next => exact Nat.zero_mul _
      next => rfl
    rw [round, if_pos nothing]
    exact (by decide : least ≤ greatest)
  · apply round_exponent_le
    · rw [Fraction.size_scale present, greatest]
      omega
    · decide

private theorem le_nearest_scale {n k : Nat} (present : n ≠ 0) (positive : 0 < k) (large : 53 + k ≤ n.log2) :
    1 <<< 53 ≤ ((Fraction.ofNat n).scale 2 (-(k : Int))).nearest := by
  refine Nat.le_trans ?_ (Fraction.le_nearest _)
  rw [Fraction.scale, if_neg (by omega), Int.neg_neg, Int.toNat_natCast]
  change _ ≤ n / (1 * 2 ^ k)
  rw [Nat.one_mul, Nat.le_div_iff_mul_le (Nat.two_pow_pos k), Nat.one_shiftLeft, ← Nat.pow_add]
  exact (Nat.le_log2 present).mp large

theorem not_isFinite_mul {x y : Binary64} {k : Nat} (shift : x.exponent + y.exponent = k)
    (large : 1024 ≤ (x.digits * y.digits * 2 ^ k).log2) : (mul x y).isFinite = false := by
  rw [isFinite, decide_eq_false_iff_not, mul, shift]
  have scaled : (Fraction.ofNat (x.digits * y.digits)).scale 2 k = .ofNat (x.digits * y.digits * 2 ^ k) := by
    rw [Fraction.scale, if_pos (Int.natCast_nonneg k)]
    rfl
  rw [scaled]
  generalize x.digits * y.digits * 2 ^ k = n at large
  have present : n ≠ 0 := by
    rintro rfl
    exact absurd large (by decide)
  have lowest : 971 ≤ low (.ofNat n) := by
    have size := size_ofNat present
    rw [Fraction.size] at size
    rw [low, size]
    omega
  have above := low_le_round_exponent (x.negative != y.negative) (f := .ofNat n) present
  rw [greatest]
  rcases Int.lt_or_eq_of_le lowest with lower | here
  · omega
  · have crowded : 1 <<< 53 ≤ ((Fraction.ofNat n).scale 2 (-971)).nearest :=
      le_nearest_scale (k := 971) present (by decide) large
    rw [round_exponent _ present, ← here, if_neg (Nat.not_lt.mpr crowded)]
    split <;> omega

section Tens
variable (negative : Bool) {digits power : Nat} (present : digits ≠ 0)
include present

theorem isFinite_of_log2 (small : digits.log2 + (10 ^ power).log2 ≤ 1019) :
    ((round negative (.ofNat digits)).mul (ten power)).isFinite = true := by
  have first := log2_round_le negative present
  have second := log2_round_le false (n := 10 ^ power) (Nat.pow_pos (by decide)).ne'
  change ((ten power).digits.log2 : Int) + (ten power).exponent ≤ _ at second
  apply isFinite_mul
  by_cases nothing : (round negative (.ofNat digits)).digits * (ten power).digits = 0
  · rw [nothing]
    change (0 : Int) + _ ≤ _
    omega
  · have logs := log2_mul_le nothing
    omega

/-- A product that is clearly too large is so after rounding. -/
theorem not_isFinite_of_le {limit : Nat} (beyond : 1126 ≤ (limit * (2 ^ 51 - 1) ^ 2).log2)
    (large : limit ≤ digits * 10 ^ power) (long : 53 ≤ digits.log2) (wide : 53 ≤ (10 ^ power).log2) :
    ((round negative (.ofNat digits)).mul (ten power)).isFinite = false := by
  obtain ⟨k, first, left⟩ := le_round negative present long
  obtain ⟨l, second, right⟩ := le_round false (n := 10 ^ power) (Nat.pow_pos (by decide)).ne' wide
  change (ten power).exponent = l at second
  change _ ≤ (ten power).digits * _ * _ at right
  refine not_isFinite_mul (by rw [first, second, Int.natCast_add] : _ = ((k + l : Nat) : Int)) ?_
  generalize (round negative (.ofNat digits)).digits = d at left
  generalize (ten power).digits = e at right
  have rounded : digits * 10 ^ power * (2 ^ 51 - 1) ^ 2 ≤ d * e * 2 ^ (k + l) * 2 ^ 102 := by
    have both := Nat.mul_le_mul left right
    convert both using 1
    · ring
    · ring
  have whole := log2_mono (Nat.le_trans (Nat.mul_le_mul_right _ large) rounded)
  have something : d * e * 2 ^ (k + l) ≠ 0 := by
    intro nothing
    rw [nothing, Nat.zero_mul, Nat.log2_zero] at whole
    omega
  rw [log2_mul_two_pow something] at whole
  omega

end Tens

end Binary64

end NanAdapter
