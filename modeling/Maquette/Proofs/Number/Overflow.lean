import Maquette.Number.Binary64
import Mathlib.Tactic.Ring

/-!
# Where the doubles end

Rounding stays below a power of two as long as the number is below the midpoint
of that power and the last double before it. The midpoint itself is rounded up,
because the last binary digit of that double is odd. At the end of the doubles
this says which quotients and which integers are finite.
-/

namespace Maquette

theorem roundHalfEven_eq_div {num den : Nat} (h : 2 * (num % den) < den) :
    roundHalfEven num den = num / den := by
  simp [roundHalfEven, h]

/-- Past the middle, and at the middle of an odd step, the rounding goes up. -/
theorem roundHalfEven_eq_succ {num den : Nat} (hmod : den ≤ 2 * (num % den))
    (hodd : num / den % 2 = 1) : roundHalfEven num den = num / den + 1 := by
  unfold roundHalfEven
  dsimp only
  rw [if_neg (by omega)]
  split
  · rfl
  · rw [hodd]

namespace Binary64

theorem nearestUnits_eq (num den : Nat) :
    nearestUnits num den =
      roundHalfEven num (den * 2 ^ ((num / den).log2 - 52)) * 2 ^ ((num / den).log2 - 52) := rfl

theorem div_lt_two_pow {num den k : Nat} (h : (num / den).log2 - 52 ≤ k) :
    num / (den * 2 ^ k) < 2 ^ 53 := by
  rw [← Nat.div_div_eq_div_mul]
  apply Nat.div_lt_of_lt_mul
  rw [← Nat.pow_add]
  by_cases h0 : num / den = 0
  · rw [h0]
    exact Nat.two_pow_pos _
  · exact (Nat.log2_lt h0).1 (by omega)

/-- On the last grid before a power of two, the numbers that are rounded to less
than it: the bound is an odd number of half steps. -/
theorem roundHalfEven_lt_iff {num den : Nat} (hden : 0 < den) (t : Nat)
    (hfloor : num / (den * 2 ^ (t + 1)) < 2 ^ 53) :
    roundHalfEven num (den * 2 ^ (t + 1)) < 2 ^ 53 ↔ num < den * ((2 ^ 54 - 1) * 2 ^ t) := by
  have hstep : den * 2 ^ (t + 1) = 2 * (den * 2 ^ t) := by ring
  have hbound : den * ((2 ^ 54 - 1) * 2 ^ t) = (2 ^ 54 - 1) * (den * 2 ^ t) :=
    Nat.mul_left_comm _ _ _
  have hhalf : 0 < den * 2 ^ t := Nat.mul_pos hden (Nat.two_pow_pos t)
  rw [hbound]
  rw [hstep] at hfloor ⊢
  generalize den * 2 ^ t = half at *
  have hdiv := Nat.div_add_mod num (2 * half)
  have hlt := Nat.mod_lt num (show 2 * half > 0 by omega)
  have hup := roundHalfEven_le num (2 * half)
  by_cases htop : num / (2 * half) = 2 ^ 53 - 1
  · rw [htop] at hdiv
    by_cases hmod : 2 * (num % (2 * half)) < 2 * half
    · rw [roundHalfEven_eq_div hmod, htop]
      omega
    · rw [roundHalfEven_eq_succ (Nat.le_of_not_lt hmod) (by rw [htop]; decide), htop]
      omega
  · have hmul : 2 * half * (num / (2 * half)) ≤ 2 * half * (2 ^ 53 - 2) :=
      Nat.mul_le_mul_left _ (by omega)
    omega

theorem nearestUnits_lt_of_lt {num den : Nat} (hden : 0 < den) (t : Nat)
    (h : num < den * ((2 ^ 54 - 1) * 2 ^ t)) : nearestUnits num den < 2 ^ (t + 54) := by
  have hlog : (num / den).log2 - 52 ≤ t + 1 := by
    by_cases h0 : num / den = 0
    · simp [h0]
    · have hquot : num / den < 2 ^ (t + 54) := by
        have hlt := Nat.div_lt_of_lt_mul h
        rw [Nat.pow_add]
        omega
      have := (Nat.log2_lt h0).2 hquot
      omega
  rw [nearestUnits_eq]
  rcases Nat.lt_or_eq_of_le hlog with hlt | heq
  · -- below the last grid even the largest quotient has room
    have hround : roundHalfEven num (den * 2 ^ ((num / den).log2 - 52)) ≤ 2 ^ 53 := by
      have hle := roundHalfEven_le num (den * 2 ^ ((num / den).log2 - 52))
      have hfloor := div_lt_two_pow (Nat.le_refl ((num / den).log2 - 52))
      omega
    have hpow : 2 ^ ((num / den).log2 - 52) ≤ 2 ^ t :=
      Nat.pow_le_pow_right (by decide) (by omega)
    refine Nat.lt_of_le_of_lt (Nat.mul_le_mul hround hpow) ?_
    rw [Nat.pow_add, Nat.mul_comm]
    exact Nat.mul_lt_mul_of_pos_left (by decide) (Nat.two_pow_pos t)
  · rw [heq, show t + 54 = 53 + (t + 1) by omega, Nat.pow_add 2 53]
    exact Nat.mul_lt_mul_of_pos_right
      ((roundHalfEven_lt_iff hden t (div_lt_two_pow hlog)).2 h) (Nat.two_pow_pos _)

theorem le_nearestUnits_of_le {num den : Nat} (hden : 0 < den) (t : Nat)
    (h : den * ((2 ^ 54 - 1) * 2 ^ t) ≤ num) : 2 ^ (t + 54) ≤ nearestUnits num den := by
  have hquot : (2 ^ 54 - 1) * 2 ^ t ≤ num / den := by
    rw [Nat.le_div_iff_mul_le hden, Nat.mul_comm]
    exact h
  have hpos := Nat.two_pow_pos t
  have hne : num / den ≠ 0 := by omega
  have hlog : t + 53 ≤ (num / den).log2 := by
    rw [Nat.le_log2 hne, Nat.pow_add]
    omega
  rw [nearestUnits_eq]
  rcases Nat.lt_or_eq_of_le hlog with hlt | heq
  · -- past the last grid the quotient itself has reached the power of two
    have hround : 2 ^ 52 ≤ roundHalfEven num (den * 2 ^ ((num / den).log2 - 52)) := by
      refine Nat.le_trans ?_ (le_roundHalfEven _ _)
      rw [← Nat.div_div_eq_div_mul, Nat.le_div_iff_mul_le (Nat.two_pow_pos _),
        ← Nat.pow_add, show 52 + ((num / den).log2 - 52) = (num / den).log2 by omega]
      exact Nat.log2_self_le hne
    rw [show t + 54 = 52 + (t + 2) by omega, Nat.pow_add]
    exact Nat.mul_le_mul hround (Nat.pow_le_pow_right (by decide) (by omega))
  · have hk : (num / den).log2 - 52 = t + 1 := by omega
    have hiff := roundHalfEven_lt_iff hden t (div_lt_two_pow (Nat.le_of_eq hk))
    rw [hk, show t + 54 = 53 + (t + 1) by omega, Nat.pow_add 2 53]
    exact Nat.mul_le_mul_right _ (by omega)

/-- A quotient is rounded to less than a power of two exactly below the midpoint
of that power and the last double before it. -/
theorem nearestUnits_lt_two_pow_iff {num den : Nat} (hden : 0 < den) (t : Nat) :
    nearestUnits num den < 2 ^ (t + 54) ↔ num < den * ((2 ^ 54 - 1) * 2 ^ t) := by
  constructor
  · intro h
    rcases Nat.lt_or_ge num (den * ((2 ^ 54 - 1) * 2 ^ t)) with hlt | hge
    · exact hlt
    · exact absurd (le_nearestUnits_of_le hden t hge) (Nat.not_le_of_lt h)
  · exact nearestUnits_lt_of_lt hden t

theorem pow_two_eq {a b : Nat} (h : a = b) : Nat.pow 2 a = 2 ^ b := by
  rw [h, Nat.pow_eq]

theorem isFinite_ofUnits_iff {negative : Bool} {num den : Nat} (hden : 0 < den) :
    (ofUnits negative num den).isFinite = true ↔ num < den * ((2 ^ 54 - 1) * 2 ^ 2044) := by
  have hlimit : unitsLimit = 2 ^ (2044 + 54) := pow_two_eq rfl
  rw [← nearestUnits_lt_two_pow_iff hden, ← hlimit, ofUnits]
  by_cases h : nearestUnits num den < unitsLimit
  · rw [dif_pos h]
    simp [h]
  · rw [dif_neg h]
    simp [h]

theorem mul_pow_two_lt_iff (m : Nat) {a b c d e : Nat} (hd : c + a = d) (he : a + b = e) :
    m * Nat.pow 2 b < (2 ^ c - 1) * 2 ^ e ↔ m < 2 ^ d - 2 ^ a := by
  rw [← hd, ← he, Nat.pow_add, Nat.pow_add, ← Nat.mul_assoc, Nat.sub_mul (2 ^ c) 1 (2 ^ a),
    Nat.one_mul, Nat.pow_eq]
  exact Nat.mul_lt_mul_right (Nat.two_pow_pos b)

/-- The first integer that is rounded to an infinity. -/
def integerLimit : Nat := 2 ^ 1024 - 2 ^ 970

theorem isFinite_ofInt_iff (n : Int) :
    (ofInt n).isFinite = true ↔ n.natAbs < integerLimit := by
  rw [ofInt, ofRatio, isFinite_ofUnits_iff Nat.one_pos, Nat.one_mul]
  exact mul_pow_two_lt_iff n.natAbs (by decide) (by decide)

theorem two_pow_le_sub {a b c : Nat} (hab : a ≤ b) (hbc : b < c) : 2 ^ a ≤ 2 ^ c - 2 ^ b := by
  refine Nat.le_sub_of_add_le ?_
  calc
    2 ^ a + 2 ^ b ≤ 2 ^ b + 2 ^ b :=
      Nat.add_le_add_right (Nat.pow_le_pow_right (by decide) hab) _
    _ = 2 ^ (b + 1) := by rw [Nat.pow_succ, Nat.mul_two]
    _ ≤ 2 ^ c := Nat.pow_le_pow_right (by decide) hbc

theorem two_pow_le_integerLimit : 2 ^ 53 ≤ integerLimit :=
  two_pow_le_sub (by decide) (by decide)

/-- Natural numbers of at most 53 binary digits are finite doubles. -/
theorem isFinite_ofNat {n : Nat} (h : n < 2 ^ 53) : (OfNat.ofNat n : Binary64).isFinite = true :=
  (isFinite_ofInt_iff n).2 (Nat.lt_of_lt_of_le h two_pow_le_integerLimit)

end Binary64

end Maquette
