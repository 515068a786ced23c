import Maquette.Number.Decimal
import Mathlib.Tactic.Ring

/-!
# Rounding and scale

Rounding looks at a quotient and never at its two parts, so both parts can be
scaled, and a decimal can be written with more digits and a smaller exponent
without becoming another double. What lies on the grid of the doubles is not
rounded at all: a double is found again in every quotient that it is the value of.

The exponents that a decimal is limited to are wide apart. Inside of them the
limit does nothing, and the decimal is rounded as it stands.
-/

namespace Maquette

theorem roundHalfEven_mul_left {k : Nat} (hk : 0 < k) (num den : Nat) :
    roundHalfEven (k * num) (k * den) = roundHalfEven num den := by
  have hlt (a b : Nat) : k * a < k * b ↔ a < b := Nat.mul_lt_mul_left hk
  unfold roundHalfEven
  dsimp only
  rw [Nat.mul_div_mul_left _ _ hk, Nat.mul_mod_mul_left, Nat.mul_left_comm 2 k]
  simp only [hlt]

theorem roundHalfEven_mul_self {den : Nat} (hden : 0 < den) (q : Nat) :
    roundHalfEven (q * den) den = q := by
  simp [roundHalfEven, hden, Nat.mul_div_cancel q hden]

namespace Binary64

theorem nearestUnits_mul_left {k : Nat} (hk : 0 < k) (num den : Nat) :
    nearestUnits (k * num) (k * den) = nearestUnits num den := by
  unfold nearestUnits
  dsimp only
  rw [Nat.mul_div_mul_left _ _ hk, Nat.mul_assoc, roundHalfEven_mul_left hk]

/-- Only the value of a quotient counts. -/
theorem nearestUnits_congr {num den num' den' : Nat} (hden : 0 < den) (hden' : 0 < den')
    (h : num * den' = num' * den) : nearestUnits num den = nearestUnits num' den' := by
  calc
    nearestUnits num den = nearestUnits (den' * num) (den' * den) :=
      (nearestUnits_mul_left hden' num den).symm
    _ = nearestUnits (den * num') (den * den') := by
      rw [Nat.mul_comm den' num, h, Nat.mul_comm num' den, Nat.mul_comm den' den]
    _ = nearestUnits num' den' := nearestUnits_mul_left hden num' den'

/-- A number of units on the grid is not rounded. -/
theorem nearestUnits_of_mod_spacing {units den : Nat} (hden : 0 < den)
    (h : units % spacing units = 0) : nearestUnits (units * den) den = units := by
  have hsteps : units / spacing units * spacing units = units :=
    Nat.div_mul_cancel (Nat.dvd_of_mod_eq_zero h)
  have hpos : 0 < den * spacing units := Nat.mul_pos hden (spacing_pos units)
  have hnum : units * den = units / spacing units * (den * spacing units) := by
    calc
      units * den = units / spacing units * spacing units * den := by rw [hsteps]
      _ = units / spacing units * (den * spacing units) := by ring
  unfold nearestUnits
  dsimp only
  rw [Nat.mul_div_cancel units hden, hnum, roundHalfEven_mul_self hpos, hsteps]

theorem ofUnits_congr {num den num' den' : Nat} (negative : Bool) (hden : 0 < den)
    (hden' : 0 < den') (h : num * den' = num' * den) :
    ofUnits negative num den = ofUnits negative num' den' := by
  unfold ofUnits
  simp only [nearestUnits_congr hden hden' h]

theorem ofUnits_of_magnitude (negative : Bool) (m : Magnitude) {den : Nat} (hden : 0 < den) :
    ofUnits negative (m.units * den) den = .finite negative m := by
  have hunits := nearestUnits_of_mod_spacing hden m.on_grid
  unfold ofUnits
  simp only [hunits, m.below_limit, dite_true]

theorem mul_two_pow_lt {k e b : Nat} (h : k < 2 ^ 53) (hb : 53 + e ≤ b) :
    k * Nat.pow 2 e < Nat.pow 2 b := by
  calc
    k * Nat.pow 2 e < 2 ^ 53 * 2 ^ e := Nat.mul_lt_mul_of_pos_right h (Nat.two_pow_pos e)
    _ = 2 ^ (53 + e) := (Nat.pow_add 2 53 e).symm
    _ ≤ 2 ^ b := Nat.pow_le_pow_right Nat.two_pos hb

/-- Numbers of at most 53 binary digits lie on the grid of the doubles at every scale. -/
theorem mul_two_pow_mod_spacing {k : Nat} (h : k < 2 ^ 53) (e : Nat) :
    k * Nat.pow 2 e % spacing (k * Nat.pow 2 e) = 0 := by
  have hlog : (k * Nat.pow 2 e).log2 - 52 ≤ e := by
    by_cases hzero : k * Nat.pow 2 e = 0
    · rw [hzero]
      exact Nat.zero_le e
    · have := (Nat.log2_lt hzero).2 (mul_two_pow_lt h (Nat.le_refl (53 + e)))
      omega
  exact Nat.mod_eq_zero_of_dvd ((Nat.pow_dvd_pow 2 hlog).trans (Nat.dvd_mul_left _ _))

/-- The sign of a quotient has no part in its rounding. -/
theorem ofUnits_eq_finite {num den : Nat} {s s' : Bool} {m : Magnitude}
    (h : ofUnits s num den = .finite s' m) (t : Bool) : ofUnits t num den = .finite t m := by
  unfold ofUnits at h ⊢
  split at h
  · next hlimit =>
    rw [dif_pos hlimit]
    injection h with _ hm
    rw [hm]
  · cases h

end Binary64

namespace Decimal

theorem ten_pow_pos (n : Nat) : 0 < Nat.pow 10 n :=
  Nat.pow_pos (by decide)

/-- A power of ten can be moved from the coefficient to the exponent. -/
theorem nearest_mul_pow (negative : Bool) (c k : Nat) (e : Int) :
    nearest negative (c * 10 ^ k) (e - k) = nearest negative c e := by
  have hexponents : k + (e - k).toNat + (-e).toNat = e.toNat + (-(e - k)).toNat := by omega
  unfold nearest Binary64.ofRatio
  refine Binary64.ofUnits_congr negative (ten_pow_pos _) (ten_pow_pos _) ?_
  simp only [Nat.pow_eq]
  calc
    c * 10 ^ k * 10 ^ (e - k).toNat * Binary64.unitsPerOne * 10 ^ (-e).toNat =
        c * 10 ^ (k + (e - k).toNat + (-e).toNat) * Binary64.unitsPerOne := by ring
    _ = c * 10 ^ (e.toNat + (-(e - k)).toNat) * Binary64.unitsPerOne := by rw [hexponents]
    _ = c * 10 ^ e.toNat * Binary64.unitsPerOne * 10 ^ (-(e - k)).toNat := by ring

/-- An exponent between the two limits is not limited. -/
theorem toBinary64_eq_nearest {d : Decimal} (hlow : lowestExponent d.coefficient ≤ d.exponent)
    (hhigh : d.exponent ≤ highestExponent) :
    d.toBinary64 = nearest d.negative d.coefficient d.exponent := by
  rw [toBinary64, limitedExponent, min_eq_left hhigh, max_eq_right hlow]

theorem toBinary64_of_small {d : Decimal} (hlow : -400 ≤ d.exponent) (hhigh : d.exponent ≤ 400) :
    d.toBinary64 = nearest d.negative d.coefficient d.exponent := by
  refine toBinary64_eq_nearest ?_ hhigh
  unfold lowestExponent
  omega

/-- A decimal is the same double with more digits and a smaller exponent. -/
theorem toBinary64_mul_pow (negative : Bool) (c k : Nat) (e : Int) (hlow : -400 ≤ e - k)
    (hhigh : e ≤ 400) :
    toBinary64 ⟨negative, c * 10 ^ k, e - k⟩ = toBinary64 ⟨negative, c, e⟩ := by
  rw [toBinary64_of_small (d := ⟨negative, c * 10 ^ k, e - k⟩) hlow (by dsimp only; omega),
    toBinary64_of_small (d := ⟨negative, c, e⟩) (by dsimp only; omega) hhigh]
  exact nearest_mul_pow negative c k e

/-- Of two decimals with opposite signs one is a finite double exactly if the other
one is. -/
theorem toBinary64_eq_finite {s s' : Bool} {c : Nat} {e : Int} {m : Magnitude}
    (h : toBinary64 ⟨s, c, e⟩ = .finite s' m) (t : Bool) : toBinary64 ⟨t, c, e⟩ = .finite t m := by
  unfold toBinary64 nearest Binary64.ofRatio limitedExponent at h ⊢
  exact Binary64.ofUnits_eq_finite h t

end Decimal

end Maquette
