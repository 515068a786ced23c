import Maquette.Proofs.Number.Scale
import Mathlib.Algebra.Order.Field.Basic
import Mathlib.Tactic.NormNum

/-!
# The value of a number

Every finite double is a rational number, and so is every decimal. Comparing and
rounding are about these values; the sign of a zero is all that they do not tell.
-/

namespace Maquette

namespace Binary64

/-- The exact value of a finite double, and zero for the others. -/
def toRat : Binary64 → ℚ
  | .finite s m => (signedUnits s m : ℚ) / unitsPerOne
  | _ => 0

theorem unitsPerOne_pos : 0 < unitsPerOne := Nat.pow_pos Nat.two_pos

theorem cast_unitsPerOne_pos : (0 : ℚ) < unitsPerOne := Nat.cast_pos.2 unitsPerOne_pos

/-- A sign as a factor. -/
def signFactor (negative : Bool) : ℚ := if negative then -1 else 1

theorem abs_signFactor_mul (s : Bool) (q : ℚ) : |signFactor s * q| = |q| := by
  cases s <;> simp [signFactor]

theorem signFactor_of_ne {s t : Bool} (h : t ≠ s) : signFactor t = -signFactor s := by
  cases s <;> cases t <;> simp_all [signFactor]

theorem toRat_finite (s : Bool) (m : Magnitude) :
    toRat (.finite s m) = signFactor s * (m.units / unitsPerOne) := by
  cases s with
  | true =>
    rw [toRat, signedUnits, signFactor, if_pos rfl, if_pos rfl, Int.cast_neg, Int.cast_natCast,
      neg_one_mul, neg_div]
  | false =>
    rw [toRat, signedUnits, signFactor, if_neg Bool.false_ne_true, if_neg Bool.false_ne_true,
      Int.cast_natCast, one_mul]

theorem toRat_of_units_eq_zero {m : Magnitude} (h : m.units = 0) (s : Bool) :
    toRat (.finite s m) = 0 := by
  rw [toRat_finite, h, Nat.cast_zero, zero_div, mul_zero]

theorem abs_toRat_finite (s : Bool) (m : Magnitude) :
    |toRat (.finite s m)| = m.units / unitsPerOne := by
  rw [toRat_finite, abs_signFactor_mul, abs_of_nonneg]
  exact div_nonneg (Nat.cast_nonneg _) cast_unitsPerOne_pos.le

theorem toRat_finite_true (m : Magnitude) :
    toRat (.finite true m) = -toRat (.finite false m) := by
  simp only [toRat, signedUnits, if_true, Bool.false_eq_true, if_false, Int.cast_neg, neg_div]

theorem toRat_ne_zero {x : Binary64} (hfinite : x.isFinite = true) (hzero : x.isZero = false) :
    x.toRat ≠ 0 := by
  cases x with
  | finite s m =>
    have hm : m.units ≠ 0 := by simpa [isZero] using hzero
    have hsigned : signedUnits s m ≠ 0 := by
      unfold signedUnits
      split <;> omega
    exact div_ne_zero (Int.cast_ne_zero.2 hsigned) cast_unitsPerOne_pos.ne'
  | infinite s => cases hfinite
  | nan => cases hfinite

theorem signedUnits_of_natAbs {m : Magnitude} {n : Int} {u : Nat} (h : m.units = n.natAbs * u) :
    signedUnits (decide (n < 0)) m = n * u := by
  unfold signedUnits
  rw [h, Nat.cast_mul]
  split
  · next hneg =>
    rw [Int.ofNat_natAbs_of_nonpos (le_of_lt (of_decide_eq_true hneg)), neg_mul, neg_neg]
  · next hneg =>
    have hnonneg : 0 ≤ n := by simpa using hneg
    rw [Int.natAbs_of_nonneg hnonneg]

/-- Integers of at most 53 binary digits are doubles. -/
theorem toRat_ofInt {n : Int} (h : n.natAbs < 2 ^ 53) : (ofInt n).toRat = n := by
  have hgrid : n.natAbs * unitsPerOne % spacing (n.natAbs * unitsPerOne) = 0 := by
    unfold unitsPerOne
    exact mul_two_pow_mod_spacing h 1074
  have hlimit : n.natAbs * unitsPerOne < unitsLimit := mul_two_pow_lt h (by decide)
  have hdouble : ofInt n = .finite (decide (n < 0)) ⟨n.natAbs * unitsPerOne, hgrid, hlimit⟩ := by
    rw [← ofUnits_of_magnitude _ _ Nat.one_pos, Nat.mul_one, ofInt, ofRatio]
  rw [hdouble, toRat, signedUnits_of_natAbs rfl, Int.cast_mul, Int.cast_natCast,
    mul_div_cancel_right₀ _ cast_unitsPerOne_pos.ne']

theorem toRat_ofNat {n : Nat} (h : n < 2 ^ 53) : (ofInt n).toRat = n :=
  toRat_ofInt h

end Binary64

namespace Decimal

open Binary64 (signFactor)

/-- The number that a decimal denotes. -/
def value (d : Decimal) : ℚ :=
  signFactor d.negative * (d.coefficient * 10 ^ d.exponent)

theorem abs_value (d : Decimal) : |d.value| = d.coefficient * 10 ^ d.exponent := by
  rw [value, Binary64.abs_signFactor_mul, abs_of_nonneg]
  exact mul_nonneg (Nat.cast_nonneg _) (zpow_nonneg (by norm_num) _)

end Decimal

end Maquette
