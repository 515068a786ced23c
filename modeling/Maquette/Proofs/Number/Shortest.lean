import Maquette.Number.Shortest
import Maquette.Proofs.Number.Scale

/-!
# The shortest decimal reads back

Whatever decimal the search comes out with has been read back before it was taken.
What is left to show is that the search can fall back on something: the decimal
expansion of a double is the double exactly, so reading it rounds nothing.
-/

namespace Maquette

theorem Magnitude.eq_of_units_eq {m m' : Magnitude} (h : m.units = m'.units) : m = m' := by
  cases m
  cases m'
  cases h
  rfl

namespace Decimal

theorem lowestExponent_le {c k : Nat} (h : 2 ^ k ≤ c) : lowestExponent c ≤ -(k : Int) := by
  have hne : c ≠ 0 := Nat.pos_iff_ne_zero.1 (Nat.lt_of_lt_of_le (Nat.two_pow_pos k) h)
  have hlog : k ≤ c.log2 := (Nat.le_log2 hne).2 h
  unfold lowestExponent
  omega

theorem mul_pow_split (units k : Nat) : units * 5 ^ k * 2 ^ k = units * 10 ^ k := by
  rw [Nat.mul_assoc, ← Nat.mul_pow]

theorem toBinary64_zero (negative : Bool) (e : Int) (m : Magnitude) (h : m.units = 0) :
    toBinary64 ⟨negative, 0, e⟩ = .finite negative m := by
  have hzero (num den : Nat) (hden : 0 < den) (hnum : num = 0) :
      Binary64.ofUnits negative num den = .finite negative m := by
    have hm : num = m.units * den := by rw [hnum, h, Nat.zero_mul]
    rw [hm]
    exact Binary64.ofUnits_of_magnitude negative m hden
  unfold toBinary64 nearest Binary64.ofRatio
  refine hzero _ _ (ten_pow_pos _) ?_
  rw [Nat.zero_mul, Nat.zero_mul]

/-- The expansion has one digit after the point for every halving of the unit. -/
theorem expansion_eq (units : Nat) :
    ∃ k : Nat, expansion units = ⟨false, units * 5 ^ k, -(k : Int)⟩ ∧
      Binary64.unitsPerOne = 2 ^ k := by
  refine ⟨1074, ?_, ?_⟩
  · unfold expansion
    rw [Nat.pow_eq]
    rfl
  · unfold Binary64.unitsPerOne
    rw [Nat.pow_eq]

theorem nearest_expansion (m : Magnitude) {k : Nat} (hk : Binary64.unitsPerOne = 2 ^ k) :
    nearest false (m.units * 5 ^ k) (-(k : Int)) = .finite false m := by
  have hup : (-(k : Int)).toNat = 0 := by omega
  have hdown : (- -(k : Int)).toNat = k := by omega
  have hnum : m.units * 5 ^ k * Nat.pow 10 0 * 2 ^ k = m.units * Nat.pow 10 k := by
    simp only [Nat.pow_eq, Nat.pow_zero, Nat.mul_one]
    exact mul_pow_split m.units k
  unfold nearest Binary64.ofRatio
  rw [hup, hdown, hk, hnum]
  exact Binary64.ofUnits_of_magnitude false m (ten_pow_pos k)

/-- The coefficient of the expansion is so long that its exponent is not limited. -/
theorem toBinary64_expansion (m : Magnitude) (h : m.units ≠ 0) :
    (expansion m.units).toBinary64 = .finite false m := by
  obtain ⟨k, hexpansion, hk⟩ := expansion_eq m.units
  have hlow : lowestExponent (m.units * 5 ^ k) ≤ -(k : Int) := by
    refine lowestExponent_le ?_
    calc
      2 ^ k ≤ 5 ^ k := Nat.pow_le_pow_left (by decide) k
      _ ≤ m.units * 5 ^ k := Nat.le_mul_of_pos_left _ (Nat.pos_of_ne_zero h)
  have hhigh : -(k : Int) ≤ highestExponent := by
    unfold highestExponent
    omega
  rw [hexpansion, toBinary64_eq_nearest hlow hhigh]
  exact nearest_expansion m hk

theorem toBinary64_of_readsBackAs {m : Magnitude} {d : Decimal} (h : readsBackAs m.units d = true) :
    ∃ s, d.toBinary64 = .finite s m := by
  unfold readsBackAs at h
  obtain ⟨s, m', hd, hunits⟩ := Binary64.exists_finite_of_hasUnits h
  have hm : m' = m := Magnitude.eq_of_units_eq hunits
  subst hm
  exact ⟨s, hd⟩

/-- The shortest decimal of a double reads back as the double, with either sign. -/
theorem toBinary64_shortest (m : Magnitude) (negative : Bool) :
    toBinary64 ⟨negative, (shortest m).coefficient, (shortest m).exponent⟩ =
      .finite negative m := by
  by_cases h : m.units = 0
  · have hshortest : shortest m = ⟨false, 0, 0⟩ := if_pos h
    rw [hshortest]
    exact toBinary64_zero negative 0 m h
  · have hread : ∃ s, (shortest m).toBinary64 = .finite s m := by
      unfold shortest
      rw [if_neg h]
      cases hfound : ((List.range' 1 17).flatMap (neighbours m.units)).find?
          (readsBackAs m.units) with
      | none => exact ⟨false, toBinary64_expansion m h⟩
      | some d => exact toBinary64_of_readsBackAs (List.find?_some hfound)
    obtain ⟨s, hs⟩ := hread
    exact toBinary64_eq_finite hs negative

end Decimal

end Maquette
