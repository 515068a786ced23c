import Maquette.Proofs.Number.Overflow
import Maquette.Proofs.Number.Shortest
import Maquette.Proofs.Number.Value
import Mathlib.Tactic.Linarith

/-!
# Rounding goes to the nearest double

Rounding looks for the nearest point on the grid around a quotient. The doubles off that
grid are all below the power of two where it begins, and the quotient is not, so none of
them is nearer than that power is. `IsRounding` is what comes of it for numbers with a
sign: no finite double is nearer, and of two equally near ones the one with an even last
binary digit is taken.
-/

namespace Maquette

/-- How far apart two numbers are. -/
def gap (a b : Nat) : Nat := ((a : Int) - b).natAbs

section Rounding

variable {num den : Nat}

/-- The rounding of a quotient goes down up to the middle and up from there, and in the
middle to the even neighbour. -/
theorem roundHalfEven_cases (num den : Nat) :
    (roundHalfEven num den = num / den ∧ 2 * (num % den) ≤ den ∧
        (2 * (num % den) = den → num / den % 2 = 0)) ∨
      (roundHalfEven num den = num / den + 1 ∧ den ≤ 2 * (num % den) ∧
        (2 * (num % den) = den → num / den % 2 = 1)) := by
  unfold roundHalfEven
  dsimp only
  split
  · left
    omega
  · split
    · right
      omega
    · rcases Nat.mod_two_eq_zero_or_one (num / den) with heven | hodd
      · left
        omega
      · right
        omega

/-- No integer is nearer to a quotient than its rounding. -/
theorem gap_roundHalfEven_le (hden : 0 < den) (j : Nat) :
    gap (roundHalfEven num den * den) num ≤ gap (j * den) num := by
  have hnum := Nat.div_add_mod' num den
  have hlt := Nat.mod_lt num hden
  have hcases := roundHalfEven_cases num den
  rcases Nat.lt_or_ge (num / den) j with hj | hj
  · have hmul := Nat.mul_le_mul_right den (Nat.succ_le_of_lt hj)
    rw [Nat.succ_mul] at hmul
    rcases hcases with ⟨heq, hhalf, -⟩ | ⟨heq, hhalf, -⟩
    · rw [heq, gap, gap]
      omega
    · rw [heq, gap, gap, Nat.succ_mul]
      omega
  · have hmul := Nat.mul_le_mul_right den hj
    rcases hcases with ⟨heq, hhalf, -⟩ | ⟨heq, hhalf, -⟩
    · rw [heq, gap, gap]
      omega
    · rw [heq, gap, gap, Nat.succ_mul]
      omega

/-- If another integer is as near to a quotient as its rounding, the rounding is even. -/
theorem roundHalfEven_mod_two_of_gap_eq (hden : 0 < den) {j : Nat}
    (hj : j ≠ roundHalfEven num den)
    (h : gap (j * den) num = gap (roundHalfEven num den * den) num) :
    roundHalfEven num den % 2 = 0 := by
  have hnum := Nat.div_add_mod' num den
  have hlt := Nat.mod_lt num hden
  rcases roundHalfEven_cases num den with ⟨heq, hhalf, htie⟩ | ⟨heq, hhalf, htie⟩
  · rw [heq] at h hj ⊢
    rcases Nat.lt_or_gt_of_ne hj with hlow | hhigh
    · have hmul := Nat.mul_le_mul_right den (Nat.succ_le_of_lt hlow)
      rw [Nat.succ_mul] at hmul
      unfold gap at h
      omega
    · have hmul := Nat.mul_le_mul_right den (Nat.succ_le_of_lt hhigh)
      rw [Nat.succ_mul] at hmul
      unfold gap at h
      omega
  · rw [heq] at h hj ⊢
    rw [gap, gap, Nat.succ_mul] at h
    rcases Nat.lt_or_gt_of_ne hj with hlow | hhigh
    · have hmul := Nat.mul_le_mul_right den (Nat.le_of_lt_succ hlow)
      omega
    · have hmul := Nat.mul_le_mul_right den (Nat.succ_le_of_lt hhigh)
      rw [Nat.succ_mul, Nat.succ_mul] at hmul
      omega

end Rounding

namespace Binary64

/-- A double that does not lie on the grid around a quotient is below the power of two
where that grid begins, and the quotient is not. -/
theorem lt_of_mod_spacing_ne {units q : Nat} (hgrid : units % spacing units = 0)
    (hoff : units % spacing q ≠ 0) :
    units < 2 ^ 52 * spacing q ∧ 2 ^ 52 * spacing q ≤ q := by
  have hlt : units.log2 - 52 < q.log2 - 52 := by
    refine Nat.lt_of_not_le fun hle => hoff ?_
    exact Nat.mod_eq_zero_of_dvd
      ((Nat.pow_dvd_pow 2 hle).trans (Nat.dvd_of_mod_eq_zero hgrid))
  have hpow : 2 ^ 52 * spacing q = 2 ^ q.log2 := by
    rw [spacing, Nat.pow_eq, ← Nat.pow_add]
    congr 1
    omega
  have hq : q ≠ 0 := by
    rintro rfl
    simp at hlt
  rw [hpow]
  refine ⟨?_, Nat.log2_self_le hq⟩
  by_cases hzero : units = 0
  · rw [hzero]
    exact Nat.two_pow_pos _
  · exact (Nat.log2_lt hzero).1 (by omega)

variable {num den : Nat}

theorem mul_step_comm (j den step : Nat) : j * (den * step) = j * step * den := by
  rw [Nat.mul_comm den, Nat.mul_assoc]

/-- No double is nearer to a quotient than its rounding, and one off the grid around the
quotient is further away. -/
theorem gap_nearestUnits_le (hden : 0 < den) {units : Nat} (hgrid : units % spacing units = 0) :
    gap (nearestUnits num den * den) num ≤ gap (units * den) num ∧
      (units % spacing (num / den) ≠ 0 →
        gap (nearestUnits num den * den) num < gap (units * den) num) := by
  have hstep : 0 < den * spacing (num / den) := Nat.mul_pos hden (spacing_pos _)
  have hround (j : Nat) : gap (nearestUnits num den * den) num ≤
      gap (j * spacing (num / den) * den) num := by
    have h : _ ≤ gap _ num := gap_roundHalfEven_le hstep j
    rwa [mul_step_comm, mul_step_comm] at h
  by_cases hon : units % spacing (num / den) = 0
  · refine ⟨?_, fun hoff => absurd hon hoff⟩
    have h := hround (units / spacing (num / den))
    rwa [Nat.div_mul_cancel (Nat.dvd_of_mod_eq_zero hon)] at h
  · obtain ⟨hunits, hq⟩ := lt_of_mod_spacing_ne hgrid hon
    have hlow : units * den < 2 ^ 52 * spacing (num / den) * den :=
      Nat.mul_lt_mul_of_pos_right hunits hden
    have hhigh : 2 ^ 52 * spacing (num / den) * den ≤ num :=
      Nat.le_trans (Nat.mul_le_mul_right den hq) (Nat.div_mul_le_self num den)
    have hbegin := hround (2 ^ 52)
    have hlt : gap (nearestUnits num den * den) num < gap (units * den) num := by
      refine Nat.lt_of_le_of_lt hbegin ?_
      unfold gap
      omega
    exact ⟨Nat.le_of_lt hlt, fun _ => hlt⟩

theorem roundHalfEven_spacing_le (num den : Nat) :
    roundHalfEven num (den * spacing (num / den)) ≤ 2 ^ 53 := by
  have hfloor : num / (den * 2 ^ ((num / den).log2 - 52)) < 2 ^ 53 := div_lt_two_pow le_rfl
  have hround := roundHalfEven_le num (den * spacing (num / den))
  rw [spacing, Nat.pow_eq] at hround ⊢
  omega

theorem le_roundHalfEven_spacing (h : 0 < (num / den).log2 - 52) :
    2 ^ 52 ≤ roundHalfEven num (den * spacing (num / den)) := by
  have hq : num / den ≠ 0 := by
    intro hzero
    rw [hzero] at h
    simp at h
  refine Nat.le_trans ?_ (le_roundHalfEven _ _)
  rw [← Nat.div_div_eq_div_mul, Nat.le_div_iff_mul_le (spacing_pos _), spacing, Nat.pow_eq,
    ← Nat.pow_add, show 52 + ((num / den).log2 - 52) = (num / den).log2 by omega]
  exact Nat.log2_self_le hq

section Steps

variable {r k : Nat} (hlarge : 0 < k → 2 ^ 52 ≤ r)

include hlarge

/-- A number of 53 binary digits that was rounded to steps of this size has this spacing. -/
theorem spacing_steps (hlt : r < 2 ^ 53) : spacing (r * 2 ^ k) = 2 ^ k := by
  have hupper : (r * 2 ^ k).log2 < 53 + k := by
    by_cases hzero : r * 2 ^ k = 0
    · rw [hzero, Nat.log2_zero]
      omega
    · rw [Nat.log2_lt hzero, Nat.pow_add]
      exact Nat.mul_lt_mul_of_pos_right hlt (Nat.two_pow_pos k)
  rw [spacing, Nat.pow_eq]
  congr 1
  rcases Nat.eq_zero_or_pos k with rfl | hk
  · omega
  · have hr := hlarge hk
    have hzero : r * 2 ^ k ≠ 0 := Nat.mul_ne_zero (by omega) (Nat.ne_of_gt (Nat.two_pow_pos k))
    have hlower : 52 + k ≤ (r * 2 ^ k).log2 := by
      rw [Nat.le_log2 hzero, Nat.pow_add]
      exact Nat.mul_le_mul_right _ hr
    omega

/-- An even number of steps is even as a double, also where it reaches the next power of
two and the spacing doubles. -/
theorem steps_div_spacing_mod_two (hle : r ≤ 2 ^ 53) (heven : r % 2 = 0) :
    r * 2 ^ k / spacing (r * 2 ^ k) % 2 = 0 := by
  rcases Nat.lt_or_eq_of_le hle with hlt | rfl
  · rw [spacing_steps hlarge hlt, Nat.mul_div_cancel _ (Nat.two_pow_pos k)]
    exact heven
  · have hspacing : spacing (2 ^ 53 * 2 ^ k) = 2 ^ (k + 1) := by
      rw [spacing, ← Nat.pow_add, Nat.log2_two_pow, Nat.pow_eq]
      congr 1
      omega
    have hquotient : 2 ^ 53 * 2 ^ k = 2 ^ 52 * 2 ^ (k + 1) := by
      rw [← Nat.pow_add, ← Nat.pow_add]
      congr 1
      omega
    rw [hspacing, hquotient, Nat.mul_div_cancel _ (Nat.two_pow_pos _)]
    rfl

end Steps

/-- If another double is as near to a quotient as its rounding, the rounding is even. -/
theorem nearestUnits_div_mod_two_of_gap_eq (hden : 0 < den) {units : Nat}
    (hgrid : units % spacing units = 0) (hne : units ≠ nearestUnits num den)
    (h : gap (units * den) num = gap (nearestUnits num den * den) num) :
    nearestUnits num den / spacing (nearestUnits num den) % 2 = 0 := by
  have hon : units % spacing (num / den) = 0 := by
    by_contra hoff
    exact absurd h.symm (Nat.ne_of_lt ((gap_nearestUnits_le hden hgrid).2 hoff))
  obtain ⟨j, rfl⟩ := Nat.dvd_of_mod_eq_zero hon
  rw [Nat.mul_comm (spacing (num / den))] at hne h
  refine steps_div_spacing_mod_two le_roundHalfEven_spacing (roundHalfEven_spacing_le num den) ?_
  refine roundHalfEven_mod_two_of_gap_eq (Nat.mul_pos hden (spacing_pos _)) (j := j) ?_ ?_
  · rintro rfl
    exact hne rfl
  · rw [mul_step_comm, mul_step_comm]
    exact h

theorem nearestUnits_zero (hden : 0 < den) : nearestUnits 0 den = 0 := by
  have h : gap (nearestUnits 0 den * den) 0 ≤ gap (0 * den) 0 :=
    (gap_nearestUnits_le hden (Nat.zero_mod (spacing 0))).1
  have hzero : nearestUnits 0 den * den = 0 := by
    unfold gap at h
    omega
  exact (Nat.mul_eq_zero.1 hzero).resolve_right (Nat.ne_of_gt hden)

/-- The distance of a number of units from a quotient of units. -/
theorem abs_sub_quotient (hden : 0 < den) (units : Nat) :
    |(units : ℚ) / unitsPerOne - num / den / unitsPerOne| =
      gap (units * den) num / (den * unitsPerOne) := by
  have hdenominator : (0 : ℚ) < den := Nat.cast_pos.2 hden
  have hgap : (gap (units * den) num : ℚ) = |(units : ℚ) * den - num| := by
    rw [gap, Nat.cast_natAbs]
    push_cast
    rfl
  rw [hgap, ← sub_div, abs_div, abs_of_pos cast_unitsPerOne_pos, ← div_div]
  congr 1
  rw [eq_div_iff hdenominator.ne', ← abs_of_pos hdenominator, ← abs_mul, abs_of_pos hdenominator,
    sub_mul, div_mul_cancel₀ _ hdenominator.ne']

/-- The last binary digit of a finite double is zero. -/
def IsEven : Binary64 → Prop
  | .finite _ m => m.units / spacing m.units % 2 = 0
  | _ => False

/-- The finite double that a number is rounded to: no other one is nearer, and if another
one is as near, the last binary digit is zero. -/
structure IsRounding (x : Binary64) (q : ℚ) : Prop where
  isFinite : x.isFinite = true
  nearest : ∀ y : Binary64, y.isFinite = true → |x.toRat - q| ≤ |y.toRat - q|
  even_of_tie : ∀ y : Binary64, y.isFinite = true → |y.toRat - q| = |x.toRat - q| →
    y.toRat ≠ x.toRat → x.IsEven

theorem exists_of_isFinite_ofUnits {s : Bool} (h : (ofUnits s num den).isFinite = true) :
    ∃ m : Magnitude, ofUnits s num den = .finite s m ∧ m.units = nearestUnits num den := by
  unfold ofUnits at h ⊢
  split
  · exact ⟨_, rfl, rfl⟩
  · next hlimit =>
    rw [dif_neg hlimit] at h
    cases h

section

variable {s : Bool} {m : Magnitude}

/-- A double with the sign of a quotient is as far from it as their absolute values are
from each other. -/
theorem abs_toRat_sub_quotient (hden : 0 < den) :
    |toRat (.finite s m) - signFactor s * (num / den / unitsPerOne)| =
      gap (m.units * den) num / (den * unitsPerOne) := by
  rw [toRat_finite, ← mul_sub, abs_signFactor_mul, abs_sub_quotient hden]

/-- With another sign it is no nearer. -/
theorem gap_le_abs_toRat_sub_quotient (hden : 0 < den) (t : Bool) :
    (gap (m.units * den) num : ℚ) / (den * unitsPerOne) ≤
      |toRat (.finite t m) - signFactor s * (num / den / unitsPerOne)| := by
  have hq : (0 : ℚ) ≤ num / den / unitsPerOne :=
    div_nonneg (div_nonneg (Nat.cast_nonneg _) (Nat.cast_nonneg _)) (Nat.cast_nonneg _)
  have habs := abs_abs_sub_abs_le (toRat (.finite t m)) (signFactor s * (num / den / unitsPerOne))
  rwa [abs_toRat_finite, abs_signFactor_mul, abs_of_nonneg hq, abs_sub_quotient hden] at habs

/-- The two signs are as far from a quotient only if the double is a zero or the quotient
is. -/
theorem units_eq_zero_or_num_eq_zero (hden : 0 < den) {t : Bool} (hts : t ≠ s)
    (h : |toRat (.finite t m) - signFactor s * (num / den / unitsPerOne)| =
      |toRat (.finite s m) - signFactor s * (num / den / unitsPerOne)|) :
    m.units = 0 ∨ num = 0 := by
  have hm : (0 : ℚ) ≤ m.units / unitsPerOne := div_nonneg (Nat.cast_nonneg _) (Nat.cast_nonneg _)
  have hq : (0 : ℚ) ≤ num / den / unitsPerOne :=
    div_nonneg (div_nonneg (Nat.cast_nonneg _) (Nat.cast_nonneg _)) (Nat.cast_nonneg _)
  rw [toRat_finite, toRat_finite, signFactor_of_ne hts, neg_mul, ← neg_add', abs_neg, ← mul_add,
    ← mul_sub, abs_signFactor_mul, abs_signFactor_mul, abs_of_nonneg (add_nonneg hm hq)] at h
  have hone : (unitsPerOne : ℚ) ≠ 0 := cast_unitsPerOne_pos.ne'
  rcases abs_cases ((m.units : ℚ) / unitsPerOne - num / den / unitsPerOne) with ⟨ha, -⟩ | ⟨ha, -⟩
  · right
    have hzero : (num : ℚ) / den / unitsPerOne = 0 := by linarith
    have hnum := (div_eq_zero_iff.1 hzero).resolve_right hone
    exact Nat.cast_eq_zero.1 ((div_eq_zero_iff.1 hnum).resolve_right (Nat.cast_ne_zero.2 hden.ne'))
  · left
    have hzero : (m.units : ℚ) / unitsPerOne = 0 := by linarith
    exact Nat.cast_eq_zero.1 ((div_eq_zero_iff.1 hzero).resolve_right hone)

/-- The rounding of a quotient is what its value is rounded to. -/
theorem isRounding_of_nearestUnits (hden : 0 < den) (hm : m.units = nearestUnits num den) :
    (finite s m).IsRounding (signFactor s * (num / den / unitsPerOne)) := by
  have hscale : (0 : ℚ) < den * unitsPerOne := mul_pos (Nat.cast_pos.2 hden) cast_unitsPerOne_pos
  have hle (m' : Magnitude) : gap (m.units * den) num ≤ gap (m'.units * den) num := by
    rw [hm]
    exact (gap_nearestUnits_le hden m'.on_grid).1
  constructor
  · rfl
  · intro y hy
    cases y with
    | finite t m' =>
      rw [abs_toRat_sub_quotient hden]
      refine le_trans ?_ (gap_le_abs_toRat_sub_quotient hden t)
      exact div_le_div_of_nonneg_right (Nat.cast_le.2 (hle m')) hscale.le
    | infinite t => cases hy
    | nan => cases hy
  · intro y hy hnear hne
    cases y with
    | finite t m' =>
      rw [abs_toRat_sub_quotient hden] at hnear
      have hgap : gap (m'.units * den) num = gap (m.units * den) num := by
        have h : _ ≤ |toRat (.finite t m') - signFactor s * (num / den / unitsPerOne)| :=
          gap_le_abs_toRat_sub_quotient hden t
        rw [hnear, div_le_div_iff_of_pos_right hscale, Nat.cast_le] at h
        exact Nat.le_antisymm h (hle m')
      have hunits : m'.units ≠ m.units := by
        intro hsame
        obtain rfl := Magnitude.eq_of_units_eq hsame
        have hts : t ≠ s := by
          rintro rfl
          exact hne rfl
        rw [← abs_toRat_sub_quotient hden] at hnear
        have hzero : m'.units = 0 := by
          rcases units_eq_zero_or_num_eq_zero hden hts hnear with hzero | rfl
          · exact hzero
          · rw [hm, nearestUnits_zero hden]
        exact hne (by rw [toRat_of_units_eq_zero hzero, toRat_of_units_eq_zero hzero])
      rw [hm] at hunits hgap
      rw [IsEven, hm]
      exact nearestUnits_div_mod_two_of_gap_eq hden m'.on_grid hunits hgap
    | infinite t => cases hy
    | nan => cases hy

theorem add_self_lt_of_lt_half {q : ℚ} (hq : |q| * (2 * unitsPerOne) < 1) :
    |q| + |q| < 1 / unitsPerOne := by
  rw [lt_div_iff₀ cast_unitsPerOne_pos]
  linarith

/-- A number that is nearer to zero than half a unit is rounded to zero. -/
theorem isRounding_zero (hm : m.units = 0) {q : ℚ} (hq : |q| * (2 * unitsPerOne) < 1) :
    (finite s m).IsRounding q := by
  have hx : toRat (.finite s m) = 0 := toRat_of_units_eq_zero hm s
  have hhalf := add_self_lt_of_lt_half hq
  have hfar (t : Bool) {m' : Magnitude} (hm' : m'.units ≠ 0) :
      |q| < |toRat (.finite t m') - q| := by
    have hunit : 1 / (unitsPerOne : ℚ) ≤ m'.units / unitsPerOne :=
      div_le_div_of_nonneg_right (Nat.one_le_cast.2 (Nat.pos_of_ne_zero hm'))
        cast_unitsPerOne_pos.le
    have habs := abs_sub_abs_le_abs_sub (toRat (.finite t m')) q
    rw [abs_toRat_finite] at habs
    linarith
  constructor
  · rfl
  · intro y hy
    rw [hx, zero_sub, abs_neg]
    cases y with
    | finite t m' =>
      by_cases hm' : m'.units = 0
      · rw [toRat_of_units_eq_zero hm', zero_sub, abs_neg]
      · exact (hfar t hm').le
    | infinite t => cases hy
    | nan => cases hy
  · intro y hy hnear hne
    rw [hx, zero_sub, abs_neg] at hnear
    cases y with
    | finite t m' =>
      by_cases hm' : m'.units = 0
      · exact absurd ((toRat_of_units_eq_zero hm' t).trans hx.symm) hne
      · exact absurd hnear (hfar t hm').ne'
    | infinite t => cases hy
    | nan => cases hy

theorem exists_units_eq_zero : ∃ zero : Magnitude, zero.units = 0 :=
  ⟨⟨0, Nat.zero_mod _, Nat.pow_pos Nat.two_pos⟩, rfl⟩

/-- What a number nearer to zero than half a unit is rounded to is a zero. -/
theorem units_eq_zero_of_isRounding {q : ℚ} (h : (finite s m).IsRounding q)
    (hq : |q| * (2 * unitsPerOne) < 1) : m.units = 0 := by
  obtain ⟨zero, hzero⟩ := exists_units_eq_zero
  have hnear := h.nearest (.finite s zero) rfl
  have habs := abs_sub_abs_le_abs_sub (toRat (.finite s m)) q
  rw [toRat_of_units_eq_zero hzero, zero_sub, abs_neg] at hnear
  rw [abs_toRat_finite] at habs
  have hhalf := add_self_lt_of_lt_half hq
  have hlt : (m.units : ℚ) / unitsPerOne < 1 / unitsPerOne := by linarith
  rw [div_lt_div_iff_of_pos_right cast_unitsPerOne_pos] at hlt
  exact Nat.cast_lt_one.1 hlt

theorem isFinite_ofUnits_iff_lt {negative : Bool} (hden : 0 < den) :
    (ofUnits negative num den).isFinite = true ↔ num < den * (integerLimit * unitsPerOne) := by
  have hlimit : (2 ^ 54 - 1) * 2 ^ 2044 = integerLimit * unitsPerOne := by decide +kernel
  exact (isFinite_ofUnits_iff hden).trans (Iff.of_eq (congrArg (num < den * ·) hlimit))

end

end Binary64

end Maquette
