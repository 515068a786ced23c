import Maquette.Proofs.Dart.Plain
import Maquette.Proofs.Geometry.Value
import Maquette.Proofs.Number.Overflow

/-!
# Floors of numbers

A number that is raised to a floor is finite and at least that floor, whatever the value was
that it was read from. That is told of exact values, so it holds of the literal that the
number is written as, too.
-/

namespace Maquette

namespace Binary64

variable {x y : Binary64} {bound : ℚ}

/-- A finite double that is at least so large. -/
structure AtLeast (bound : ℚ) (x : Binary64) : Prop where
  isFinite : x.isFinite = true
  le : bound ≤ x.toRat

theorem toRat_le_iff {s t : Bool} {a b : Magnitude} :
    (finite s a).toRat ≤ (finite t b).toRat ↔ signedUnits s a ≤ signedUnits t b := by
  rw [toRat, toRat, div_le_div_iff_of_pos_right cast_unitsPerOne_pos, Int.cast_le]

/-- Raising a number to a floor, there is no infinity on either side. -/
theorem atLeast_max (hx : x.isFinite = true) (hy : y.isFinite = true) :
    (x.max y).AtLeast y.toRat := by
  cases x with
  | infinite s => cases hx
  | nan => cases hx
  | finite s a =>
    cases y with
    | infinite t => cases hy
    | nan => cases hy
    | finite t b =>
      unfold max
      split
      · exact ⟨rfl, le_rfl⟩
      · next hlt =>
        refine ⟨rfl, toRat_le_iff.2 ?_⟩
        simpa [lt] using hlt

theorem atLeast_ofNat {n : Nat} (h : n < 2 ^ 53) : (ofInt n).AtLeast n :=
  ⟨isFinite_ofNat h, (toRat_ofNat h).ge⟩

theorem AtLeast.mono {lower : ℚ} (h : x.AtLeast bound) (hle : lower ≤ bound) : x.AtLeast lower :=
  ⟨h.isFinite, hle.trans h.le⟩

end Binary64

namespace Json

theorem atLeast_of_numberAtLeast {value : Json} {x : Binary64} {default : Nat} (floor : Nat)
    (hdefault : default < 2 ^ 53) (hfloor : floor < 2 ^ 53)
    (h : value.numberAtLeast (OfNat.ofNat default) (OfNat.ofNat floor) = .ok x) :
    x.AtLeast floor := by
  obtain ⟨y, hy, h⟩ := exists_of_bind_eq_ok h
  obtain rfl := Except.ok.inj h
  have hy := isFinite_of_numberOr (Binary64.isFinite_ofNat hdefault) hy
  have hfinite := Binary64.atLeast_ofNat hfloor
  exact (Binary64.atLeast_max hy hfinite.isFinite).mono hfinite.le

end Json

namespace Dart

/-- The code writes a number that is at least so large. -/
def WritesAtLeast (bound : ℚ) (code : String) : Prop :=
  ∃ q, value? [] code.toList = some q ∧ bound ≤ q

theorem writesAtLeast_literal {x : Binary64} {bound : ℚ} (h : x.AtLeast bound) :
    WritesAtLeast bound x.literal :=
  ⟨x.toRat, (value?_word [] (space_not_mem_of_all x.all_isWordChar_literal)).trans
    (factor?_literal [] h.isFinite), h.le⟩

end Dart

end Maquette
