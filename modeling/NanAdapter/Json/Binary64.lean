import NanAdapter.Text.Decimal

/-! Real numbers of the binary64 format: whole numbers of at most 53 binary digits, times a power of
two. The arithmetic is exact, and a result is rounded once, to the nearest number and of two to the
even one. -/

namespace NanAdapter

structure Fraction where
  num : Nat
  den : Nat
  deriving DecidableEq, Repr

namespace Fraction

def ofNat (n : Nat) : Fraction := ⟨n, 1⟩

/-- Multiplies by a power, which may be negative. -/
def scale (f : Fraction) (base : Nat) (power : Int) : Fraction :=
  if 0 ≤ power then { f with num := f.num * Nat.pow base power.toNat }
  else { f with den := f.den * Nat.pow base (-power).toNat }

/-- The nearest whole number, of two the even one. -/
def nearest (f : Fraction) : Nat :=
  let down := f.num / f.den
  let rest := f.num % f.den
  if 2 * rest < f.den ∨ (2 * rest = f.den ∧ down % 2 = 0) then down else down + 1

end Fraction

structure Binary64 where
  negative : Bool
  digits : Nat
  exponent : Int
  deriving DecidableEq, Repr

namespace Binary64

/-- The exponent of the smallest number. -/
def least : Int := -1074

/-- The exponent of the greatest number. -/
def greatest : Int := 971

def zero (negative : Bool) : Binary64 := ⟨negative, 0, least⟩

/-- The number that a fraction is rounded to, as if exponents had no upper bound. It has the lowest
exponent with which its digits fit. -/
def round (negative : Bool) (f : Fraction) : Binary64 :=
  if f.num = 0 then zero negative
  else
    let digits (exponent : Int) : Nat := (f.scale 2 (-exponent)).nearest
    let fits (exponent : Int) : Bool := digits exponent < 1 <<< 53
    let low := max ((f.num.log2 : Int) - f.den.log2 - 53) least
    let exponent := if fits low then low else if fits (low + 1) then low + 1 else low + 2
    ⟨negative, digits exponent, exponent⟩

def isFinite (x : Binary64) : Bool := x.exponent ≤ greatest

def mul (x y : Binary64) : Binary64 :=
  round (x.negative != y.negative) ((Fraction.ofNat (x.digits * y.digits)).scale 2 (x.exponent + y.exponent))

/-- The divisor is not zero. -/
def div (x y : Binary64) : Binary64 :=
  round (x.negative != y.negative) ((Fraction.mk x.digits y.digits).scale 2 (x.exponent - y.exponent))

/-- A power of ten. -/
def ten (power : Nat) : Binary64 := round false (.ofNat (Nat.pow 10 power))

/-- The multiple of a power of ten that is rounded to the number, and the nearest if there are
several. -/
def multiple? (x : Binary64) (power : Int) : Option Nat :=
  let f := ((Fraction.ofNat x.digits).scale 2 x.exponent).scale 10 (-power)
  let down := f.num / f.den
  [f.nearest, down, down + 1].find? fun n => round x.negative ((Fraction.ofNat n).scale 10 power) = x

/-- The shortest decimal digits that are rounded to the number, and the power of ten that they are
multiplied by. It is the highest with such a multiple. -/
def shortest (x : Binary64) : Nat × Int :=
  let powers := (List.range 633).map fun (step : Nat) => (308 : Int) - step
  (powers.findSome? fun power => (x.multiple? power).map (·, power)).getD (0, 0)

/-- Decimal digits with a point after so many of them. -/
def pointed (digits : List Char) (place : Nat) : List Char :=
  digits.take place ++ '.' :: digits.drop place

/-- The shortest text that is rounded to the number. From 10^-5 to below 10^16 it has no exponent.
-/
def text (x : Binary64) : List Char :=
  let sign := if x.negative then ['-'] else []
  if x.digits = 0 then sign ++ "0.0".toList
  else
    let (n, power) := x.shortest
    let digits := Text.natural n
    let first : Int := digits.length - 1 + power
    let zeros (count : Int) : List Char := List.replicate count.toNat '0'
    sign ++
      if -5 ≤ first ∧ first < 0 then "0.".toList ++ zeros (-first - 1) ++ digits
      else if 0 ≤ first ∧ first < 16 then
        let padded := digits ++ zeros power
        pointed padded (first.toNat + 1) ++ if padded.length = first.toNat + 1 then ['0'] else []
      else
        (if digits.length = 1 then digits else pointed digits 1) ++
          'e' :: (if 0 ≤ first then ['+'] else []) ++ Text.integer first

end Binary64

end NanAdapter
