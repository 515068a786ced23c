import Maquette.Proofs.Number.Nearest
import Mathlib.Tactic.Ring

/-!
# Decimals are rounded correctly

A decimal is read as the double that its value is rounded to, whatever its exponent is.
Between the two limits of the exponent that is one rounding of the exact value. Past the
higher one every number but zero is infinite, and below the lower one every number is
nearer to zero than half a unit, so there the exponent that is rounded with and the one
that was written give the same double.
-/

namespace Maquette

namespace Decimal

open Binary64 (signFactor unitsPerOne integerLimit)

theorem cast_ten_pow_div (e : Int) :
    ((Nat.pow 10 e.toNat : Nat) : ℚ) / (Nat.pow 10 (-e).toNat : Nat) = 10 ^ e := by
  simp only [Nat.pow_eq, Nat.cast_pow, Nat.cast_ofNat]
  rcases Int.le_total 0 e with he | he
  · rw [Int.toNat_eq_zero.2 (show -e ≤ 0 by omega), pow_zero, div_one, ← zpow_natCast,
      Int.toNat_of_nonneg he]
  · rw [Int.toNat_eq_zero.2 he, pow_zero, ← zpow_natCast, Int.toNat_of_nonneg (by omega), zpow_neg,
      one_div, inv_inv]

/-- The quotient that a decimal is rounded from, in units of one. -/
theorem quotient_eq_value (negative : Bool) (c : Nat) (e : Int) :
    signFactor negative * (((c * Nat.pow 10 e.toNat * unitsPerOne : Nat) : ℚ) /
      (Nat.pow 10 (-e).toNat : Nat) / unitsPerOne) = value ⟨negative, c, e⟩ := by
  have hone : (unitsPerOne : ℚ) ≠ 0 := Binary64.cast_unitsPerOne_pos.ne'
  rw [value, Nat.cast_mul, Nat.cast_mul, mul_div_right_comm, mul_div_cancel_right₀ _ hone,
    mul_div_assoc, cast_ten_pow_div]

theorem isFinite_nearest_iff (negative : Bool) (c : Nat) (e : Int) :
    (nearest negative c e).isFinite = true ↔ |value ⟨negative, c, e⟩| < integerLimit := by
  unfold nearest Binary64.ofRatio
  rw [Binary64.isFinite_ofUnits_iff_lt (ten_pow_pos _), ← Nat.mul_assoc,
    Nat.mul_lt_mul_right Binary64.unitsPerOne_pos, abs_value, ← cast_ten_pow_div, ← mul_div_assoc,
    div_lt_iff₀ (Nat.cast_pos.2 (ten_pow_pos _)), mul_comm (integerLimit : ℚ)]
  norm_cast

theorem exists_nearest_eq {negative : Bool} {c : Nat} {e : Int}
    (h : (nearest negative c e).isFinite = true) :
    ∃ m, nearest negative c e = .finite negative m ∧
      (Binary64.finite negative m).IsRounding (value ⟨negative, c, e⟩) := by
  rw [← quotient_eq_value]
  unfold nearest Binary64.ofRatio at h ⊢
  obtain ⟨m, hx, hm⟩ := Binary64.exists_of_isFinite_ofUnits h
  exact ⟨m, hx, Binary64.isRounding_of_nearestUnits (ten_pow_pos _) hm⟩

theorem nearest_eq_infinite {negative : Bool} {c : Nat} {e : Int}
    (h : (integerLimit : ℚ) ≤ |value ⟨negative, c, e⟩|) :
    nearest negative c e = .infinite negative := by
  have hfinite := (isFinite_nearest_iff negative c e).not.2 (not_lt.2 h)
  unfold nearest Binary64.ofRatio Binary64.ofUnits at hfinite ⊢
  split
  · next hlimit =>
    rw [dif_pos hlimit] at hfinite
    exact absurd rfl hfinite
  · rfl

theorem pow_eight_le (n : Nat) : 2 ^ (3 * n) ≤ 10 ^ n := by
  rw [Nat.pow_mul]
  exact Nat.pow_le_pow_left (by decide) n

/-- At the lowest exponent, a number is nearer to zero than half a unit. -/
theorem mul_units_lt (c : Nat) : c * (2 * unitsPerOne) < 10 ^ (c.log2 + 400) := by
  have hone : 2 * unitsPerOne = 2 ^ 1075 := by
    rw [unitsPerOne, Nat.pow_eq, ← Nat.pow_succ']
  calc
    c * (2 * unitsPerOne) < 2 ^ (c.log2 + 1) * 2 ^ 1075 := by
      rw [hone]
      exact Nat.mul_lt_mul_of_pos_right Nat.lt_log2_self (Nat.two_pow_pos _)
    _ = 2 ^ c.log2 * 2 ^ (1 + 1075) := by rw [Nat.pow_add, Nat.mul_assoc, ← Nat.pow_add 2 1]
    _ ≤ 10 ^ c.log2 * 10 ^ 400 :=
      Nat.mul_le_mul (Nat.pow_le_pow_left (by decide) _)
        (Nat.le_trans (Nat.pow_le_pow_right (by decide) (by decide)) (pow_eight_le 400))
    _ = 10 ^ (c.log2 + 400) := (Nat.pow_add _ _ _).symm

theorem abs_value_lt_of_le_lowestExponent (negative : Bool) {c : Nat} {e : Int}
    (he : e ≤ lowestExponent c) : |value ⟨negative, c, e⟩| * (2 * unitsPerOne) < 1 := by
  have hlowest : (10 : ℚ) ^ e ≤ 10 ^ lowestExponent c := zpow_le_zpow_right₀ (by norm_num) he
  have hpow : (10 : ℚ) ^ lowestExponent c = ((10 ^ (c.log2 + 400) : Nat) : ℚ)⁻¹ := by
    rw [lowestExponent, zpow_neg, zpow_natCast, Nat.cast_pow, Nat.cast_ofNat]
  have hpos : (0 : ℚ) < (10 ^ (c.log2 + 400) : Nat) := Nat.cast_pos.2 (ten_pow_pos _)
  have hsmall : ((c * (2 * unitsPerOne) : Nat) : ℚ) < (10 ^ (c.log2 + 400) : Nat) :=
    Nat.cast_lt.2 (mul_units_lt c)
  rw [abs_value]
  calc
    (c : ℚ) * 10 ^ e * (2 * unitsPerOne)
        ≤ c * 10 ^ lowestExponent c * (2 * unitsPerOne) :=
      mul_le_mul_of_nonneg_right (mul_le_mul_of_nonneg_left hlowest (Nat.cast_nonneg c))
        (mul_nonneg zero_le_two (Nat.cast_nonneg _))
    _ = ((c * (2 * unitsPerOne) : Nat) : ℚ) / (10 ^ (c.log2 + 400) : Nat) := by
      rw [hpow, Nat.cast_mul, Nat.cast_mul, Nat.cast_ofNat]
      ring
    _ < 1 := (div_lt_one hpos).2 hsmall

theorem integerLimit_le_abs_value (negative : Bool) {c : Nat} (hc : c ≠ 0) {e : Int}
    (he : highestExponent ≤ e) : (integerLimit : ℚ) ≤ |value ⟨negative, c, e⟩| := by
  have hlimit : integerLimit ≤ 10 ^ 400 :=
    Nat.le_trans (Nat.sub_le _ _)
      (Nat.le_trans (Nat.pow_le_pow_right (by decide) (by decide)) (pow_eight_le 400))
  have hpow : ((10 ^ 400 : Nat) : ℚ) ≤ 10 ^ e := by
    rw [Nat.cast_pow, Nat.cast_ofNat, ← zpow_natCast]
    exact zpow_le_zpow_right₀ (by norm_num) he
  rw [abs_value]
  calc
    (integerLimit : ℚ) ≤ (10 ^ 400 : Nat) := Nat.cast_le.2 hlimit
    _ ≤ 10 ^ e := hpow
    _ ≤ c * 10 ^ e :=
      le_mul_of_one_le_left (zpow_nonneg (by norm_num) _)
        (Nat.one_le_cast.2 (Nat.pos_of_ne_zero hc))

/-- What a decimal is read as: the double that it is rounded to, with its sign, as long as
it does not come too near to the next power of two after the largest double. -/
inductive ReadAs (d : Decimal) : Binary64 → Prop
  | finite {m : Magnitude} (below : |d.value| < integerLimit)
      (rounding : (Binary64.finite d.negative m).IsRounding d.value) :
      ReadAs d (.finite d.negative m)
  | infinite (past : (integerLimit : ℚ) ≤ |d.value|) : ReadAs d (.infinite d.negative)

theorem ReadAs.isFinite_iff {d : Decimal} {x : Binary64} (h : d.ReadAs x) :
    x.isFinite = true ↔ |d.value| < integerLimit := by
  cases h with
  | finite below rounding => exact iff_of_true rfl below
  | infinite past => exact iff_of_false Bool.false_ne_true (not_lt.2 past)

theorem readAs_nearest (negative : Bool) (c : Nat) (e : Int) :
    ReadAs ⟨negative, c, e⟩ (nearest negative c e) := by
  rcases lt_or_ge |value ⟨negative, c, e⟩| (integerLimit : ℚ) with hlt | hge
  · obtain ⟨m, hx, hrounding⟩ := exists_nearest_eq ((isFinite_nearest_iff negative c e).2 hlt)
    rw [hx]
    exact .finite hlt hrounding
  · rw [nearest_eq_infinite hge]
    exact .infinite hge

theorem one_le_integerLimit : (1 : ℚ) ≤ integerLimit :=
  Nat.one_le_cast.2 (Nat.sub_pos_of_lt (Nat.pow_lt_pow_right (by decide) (by decide)))

theorem lt_integerLimit_of_lt_half {q : ℚ} (hq : 0 ≤ q) (h : q * (2 * unitsPerOne) < 1) :
    q < integerLimit := by
  have hone : (1 : ℚ) ≤ unitsPerOne := Nat.one_le_cast.2 Binary64.unitsPerOne_pos
  have hle : q ≤ q * (2 * unitsPerOne) := le_mul_of_one_le_right hq (by linarith)
  linarith [one_le_integerLimit]

/-- A decimal that is nearer to zero than half a unit is read as the zero that another such
decimal is read as. -/
theorem readAs_of_lt_half {d d' : Decimal} {x : Binary64} (hx : d'.ReadAs x)
    (hsign : d.negative = d'.negative) (hd' : |d'.value| * (2 * unitsPerOne) < 1)
    (hd : |d.value| * (2 * unitsPerOne) < 1) : d.ReadAs x := by
  have hlt := lt_integerLimit_of_lt_half (abs_nonneg _) hd
  have hlt' := lt_integerLimit_of_lt_half (abs_nonneg _) hd'
  cases hx with
  | finite below rounding =>
    have hzero := Binary64.units_eq_zero_of_isRounding rounding hd'
    rw [← hsign]
    exact .finite hlt (Binary64.isRounding_zero hzero hd)
  | infinite past => exact absurd past (not_le.2 hlt')

/-- Limiting the exponent does not change what a decimal is read as. -/
theorem readAs_toBinary64 (d : Decimal) : d.ReadAs d.toBinary64 := by
  obtain ⟨negative, c, e⟩ := d
  have hlimits : lowestExponent c ≤ highestExponent := by
    unfold lowestExponent highestExponent
    omega
  have hnearest (e : Int) := readAs_nearest negative c e
  rw [toBinary64, limitedExponent]
  dsimp only
  by_cases hc : c = 0
  · have hzero (e : Int) : |value ⟨negative, c, e⟩| * (2 * unitsPerOne) < 1 := by
      simp only [value, hc, Nat.cast_zero, zero_mul, mul_zero, abs_zero]
      exact one_pos
    exact readAs_of_lt_half (hnearest _) rfl (hzero _) (hzero e)
  · rcases lt_or_ge highestExponent e with hhigh | hhigh
    · rw [min_eq_right hhigh.le, max_eq_right hlimits,
        nearest_eq_infinite (integerLimit_le_abs_value negative hc le_rfl)]
      exact .infinite (integerLimit_le_abs_value negative hc hhigh.le)
    · rw [min_eq_left hhigh]
      rcases lt_or_ge e (lowestExponent c) with hlow | hlow
      · have hlowest := abs_value_lt_of_le_lowestExponent negative (Int.le_refl (lowestExponent c))
        rw [max_eq_left hlow.le]
        exact readAs_of_lt_half (hnearest _) rfl hlowest
          (abs_value_lt_of_le_lowestExponent negative hlow.le)
      · rw [max_eq_right hlow]
        exact hnearest e

theorem readAs_infinite_iff (d : Decimal) :
    d.ReadAs (.infinite d.negative) ↔ d.toBinary64.isFinite = false := by
  rw [← Bool.not_eq_true, d.readAs_toBinary64.isFinite_iff]
  constructor
  · intro h
    exact h.isFinite_iff.not.1 Bool.false_ne_true
  · exact fun h => .infinite (not_lt.1 h)

end Decimal

end Maquette
