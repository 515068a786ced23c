import Mathlib.Data.Rat.Cast.Defs
import Mathlib.Tactic.Choose
import Maquette.Proofs.Geometry.Frame
import Maquette.Proofs.Geometry.Value

/-!
# The two ways of placing a component

What the geometry of a component comes to on a viewport, told from the fields of the
component. With no responsive value defined, all four numbers are scaled from the
reference frame to the viewport. As soon as one is, every axis goes its own way: its
fraction of the viewport, or its pixels as they are. The second way is not the first one
with some axes replaced, since the pixels of the other axes are not scaled any more.

The arithmetic is exact, in any field. A field that cannot be read as a number at all
keeps a component from having a geometry, so here every one that counts has been read.
-/

namespace Maquette

namespace Geometry

open Component (placeFractions)

/-- The numbers that place a component are these, as far as they are defined: its
fractions, and the pixels of its position and size. -/
structure Reads (c : Component) (fraction position size : String → Option Binary64) : Prop where
  fraction_eq : ∀ name ∈ placeFractions, c.fraction? name = .ok (fraction name)
  position_eq : ∀ name ∈ positionNames, (c.position.get name).number? = .ok (position name)
  size_eq : ∀ name ∈ sizeNames, (c.size.get name).number? = .ok (size name)

variable {c c' : Component} {g : Geometry} {fraction position size : String → Option Binary64}

/-- Some fraction is defined. -/
def anyDefined (fraction : String → Option Binary64) : Bool :=
  placeFractions.any fun name => (fraction name).isSome

theorem anyDefined_eq_false_iff :
    anyDefined fraction = false ↔ ∀ name ∈ placeFractions, fraction name = none := by
  simp [anyDefined]

theorem anyDefined_eq_true_iff :
    anyDefined fraction = true ↔ ∃ name ∈ placeFractions, fraction name ≠ none := by
  simp [anyDefined, Option.isSome_iff_ne_none]

theorem hasResponsiveGeometry_eq
    (h : ∀ name ∈ placeFractions, c.fraction? name = .ok (fraction name)) :
    c.hasResponsiveGeometry = .ok (anyDefined fraction) := by
  simp only [placeFractions, List.mem_cons, List.not_mem_nil, or_false, forall_eq_or_imp,
    forall_eq] at h
  obtain ⟨hleft, htop, hacross, hdown⟩ := h
  unfold Component.hasResponsiveGeometry
  simp only [hleft, htop, hacross, hdown, anyDefined, placeFractions, List.any_cons, List.any_nil,
    bind, Except.bind, pure, Except.pure]
  cases fraction "xPercent" with
  | some r => rfl
  | none =>
    cases fraction "yPercent" with
    | some r => rfl
    | none =>
      cases fraction "widthPercent" with
      | some r => rfl
      | none => simp

theorem numberOr_eq_of_number? {value : Json} {found : Option Binary64}
    (h : value.number? = .ok found) (default : Binary64) :
    value.numberOr default = .ok (found.getD default) := by
  rw [Json.numberOr, h]
  rfl

/-- A geometry by the numbers that place its component. -/
theorem Reads.ofComponent_eq (h : Reads c fraction position size) :
    ofComponent c = .ok (
      let x := (position "x").getD 0
      let y := (position "y").getD 0
      let across := (size "width").getD 100
      let down := (size "height").getD 30
      if anyDefined fraction then
        responsive (fraction "xPercent") (fraction "yPercent") (fraction "widthPercent")
          (fraction "heightPercent") x y across down
      else framed x y across down) := by
  have hresponsive := hasResponsiveGeometry_eq h.fraction_eq
  obtain ⟨hfraction, hposition, hsize⟩ := h
  simp only [positionNames, sizeNames, placeFractions, List.mem_cons, List.not_mem_nil, or_false,
    forall_eq_or_imp, forall_eq] at hposition hsize hfraction
  unfold ofComponent
  simp only [hresponsive, numberOr_eq_of_number? hposition.1, numberOr_eq_of_number? hposition.2,
    numberOr_eq_of_number? hsize.1, numberOr_eq_of_number? hsize.2, hfraction, bind, Except.bind]
  cases anyDefined fraction <;> rfl

theorem exists_of_numberOr {value : Json} {default x : Binary64}
    (h : value.numberOr default = .ok x) : ∃ found, value.number? = .ok found := by
  obtain ⟨found, hfound, -⟩ := exists_of_bind_eq_ok h
  exact ⟨found, hfound⟩

theorem exists_fraction?_eq (h : ofComponent c = .ok g) :
    ∀ name ∈ placeFractions, ∃ found, c.fraction? name = .ok found := by
  obtain ⟨x, y, across, down, -, hread⟩ := exists_readFrom_of_ofComponent h
  cases hread with
  | framed hresponsive =>
    intro name hname
    exact ⟨none, c.hasResponsiveGeometry_eq_false_iff.1 hresponsive name hname⟩
  | responsive _ hleft htop hwidth hheight =>
    simp [placeFractions, hleft, htop, hwidth, hheight]

/-- Where there is a geometry, every number that places the component has been read. -/
theorem exists_reads (h : ofComponent c = .ok g) :
    ∃ fraction position size, Reads c fraction position size := by
  have hfraction := exists_fraction?_eq h
  obtain ⟨x, y, across, down, hpixels, -⟩ := exists_readFrom_of_ofComponent h
  have hposition : ∀ name ∈ positionNames, ∃ found,
      (c.position.get name).number? = .ok found := by
    simp [positionNames, exists_of_numberOr hpixels.x, exists_of_numberOr hpixels.y]
  have hsize : ∀ name ∈ sizeNames, ∃ found, (c.size.get name).number? = .ok found := by
    simp [sizeNames, exists_of_numberOr hpixels.across, exists_of_numberOr hpixels.down]
  choose! fraction hfraction using hfraction
  choose! position hposition using hposition
  choose! size hsize using hsize
  exact ⟨fraction, position, size, hfraction, hposition, hsize⟩

theorem toRat_referenceWidth : Basis.referenceWidth.toRat = 360 :=
  Binary64.toRat_ofNat (n := 360) (by simp)

theorem toRat_referenceHeight : Basis.referenceHeight.toRat = 720 :=
  Binary64.toRat_ofNat (n := 720) (by simp)

section Layout

variable {K : Type} [Field K]

/-- A number that is defined, or else a default, as an exact one. -/
def exactOr (default : K) (found : Option Binary64) : K :=
  found.elim default fun x => x.toRat

/-- A fraction of a side if there is one, and pixels if there is none. -/
def share (fraction : Option Binary64) (side pixels : K) : K :=
  fraction.elim pixels fun r => r.toRat * side

/-- What the four values of a geometry come to on a viewport. -/
def layoutIn (g : Geometry) (width height : K) : List K :=
  g.extents.map fun e => e.evaluateIn (fun x => (x.toRat : K)) width height

theorem cast_toRat_getD {n : Nat} (hn : n < 2 ^ 53) (found : Option Binary64) :
    ((found.getD (Binary64.ofInt n)).toRat : K) = exactOr (n : K) found := by
  cases found with
  | none => rw [Option.getD_none, Binary64.toRat_ofNat hn, Rat.cast_natCast, exactOr, Option.elim_none]
  | some x => rfl

theorem evaluateIn_extentOf_width (fraction : Option Binary64) (pixels : Binary64)
    (width height : K) :
    (extentOf fraction pixels .viewportWidth).evaluateIn (fun x => (x.toRat : K)) width height =
      share fraction width pixels.toRat := by
  cases fraction <;> rfl

theorem evaluateIn_extentOf_height (fraction : Option Binary64) (pixels : Binary64)
    (width height : K) :
    (extentOf fraction pixels .viewportHeight).evaluateIn (fun x => (x.toRat : K)) width height =
      share fraction height pixels.toRat := by
  cases fraction <;> rfl

theorem layoutIn_responsive (left top width height : Option Binary64) (x y across down : Binary64)
    (W H : K) :
    (responsive left top width height x y across down).layoutIn W H =
      [share left W x.toRat, share top H y.toRat, share width W across.toRat,
        share height H down.toRat] := by
  simp only [layoutIn, extents, responsive, List.map_cons, List.map_nil,
    evaluateIn_extentOf_width, evaluateIn_extentOf_height]

theorem layoutIn_framed (x y across down : Binary64) (W H : K) :
    (framed x y across down).layoutIn W H =
      [x.toRat * W / 360, y.toRat * H / 720, across.toRat * W / 360, down.toRat * H / 720] := by
  simp only [layoutIn, extents, framed, List.map_cons, List.map_nil, Extent.evaluateIn,
    toRat_referenceWidth, toRat_referenceHeight, Rat.cast_ofNat, mul_div_assoc]

end Layout

/-- Where a component sits on a viewport. With none of its four fractions defined, the four
numbers of its position and size are scaled from the reference frame. With one of them
defined, each value is its own fraction of the viewport, and without a fraction of its own
the number as it is. No other responsive value and no other property has a part in it. -/
theorem layoutIn_of_ofComponent (h : ofComponent c = .ok g) :
    ∃ fraction position size, Reads c fraction position size ∧
      (∀ {K : Type} [Field K] (W H : K),
        let x := exactOr 0 (position "x")
        let y := exactOr 0 (position "y")
        let width := exactOr 100 (size "width")
        let height := exactOr 30 (size "height")
        ((∀ name ∈ placeFractions, fraction name = none) →
          g.layoutIn W H = [x * W / 360, y * H / 720, width * W / 360, height * H / 720]) ∧
        ((∃ name ∈ placeFractions, fraction name ≠ none) →
          g.layoutIn W H =
            [share (fraction "xPercent") W x, share (fraction "yPercent") H y,
              share (fraction "widthPercent") W width,
              share (fraction "heightPercent") H height])) ∧
      ∀ c' : Component, c'.position = c.position → c'.size = c.size →
        (∀ name ∈ placeFractions, c'.responsive.get name = c.responsive.get name) →
        ofComponent c' = .ok g := by
  obtain ⟨fraction, position, size, hreads⟩ := exists_reads h
  refine ⟨fraction, position, size, hreads, fun {K} _ W H => ?_,
    fun c' hposition hsize hresponsive => ?_⟩
  · have hzero (found : Option Binary64) : ((found.getD 0).toRat : K) = exactOr 0 found := by
      rw [← Nat.cast_zero]
      exact cast_toRat_getD (by simp) found
    have hwidth : (((size "width").getD 100).toRat : K) = exactOr 100 (size "width") :=
      cast_toRat_getD (n := 100) (by simp) _
    have hheight : (((size "height").getD 30).toRat : K) = exactOr 30 (size "height") :=
      cast_toRat_getD (n := 30) (by simp) _
    have hg := Except.ok.inj (h.symm.trans hreads.ofComponent_eq)
    refine ⟨fun hnone => ?_, fun hsome => ?_⟩
    · rw [if_neg (by simp [anyDefined_eq_false_iff.2 hnone])] at hg
      rw [hg, layoutIn_framed, hzero, hzero, hwidth, hheight]
    · rw [if_pos (anyDefined_eq_true_iff.2 hsome)] at hg
      rw [hg, layoutIn_responsive, hzero, hzero, hwidth, hheight]
  · rw [← h]
    refine ofComponent_congr (fun name _ => by rw [hposition]) (fun name _ => by rw [hsize]) ?_
    intro name hname
    rw [Component.fraction?, hresponsive name hname, Component.fraction?]

/-- A component on the left edge, by a fraction of zero. Its ordinate is no number, and
its font size has no part in where it sits. -/
def leftmost : Component :=
  .ofFields [
    ("type", .string "Text"),
    ("position", .object [("x", .integer 12), ("y", .string "bad")]),
    ("size", .object [("width", .string "50px")]),
    ("responsive", .object [("xPercent", .integer 0), ("fontPercent", .integer 1)])]

theorem layoutIn_leftmost :
    ∃ g, ofComponent leftmost = .ok g ∧ g.layoutIn (411 : ℚ) 823 = [0, 0, 50, 30] := by
  have hok : ∃ g, ofComponent leftmost = .ok g := by
    have hsome : (ofComponent leftmost).toOption.isSome = true := by decide +kernel
    cases hg : ofComponent leftmost with
    | error e => rw [hg] at hsome; cases hsome
    | ok g => exact ⟨g, rfl⟩
  obtain ⟨g, hg⟩ := hok
  obtain ⟨fraction, position, size, ⟨hfraction, hposition, hsize⟩, hlayout, -⟩ :=
    layoutIn_of_ofComponent hg
  have hleft : fraction "xPercent" = some 0 :=
    Except.ok.inj ((hfraction _ (by simp [placeFractions])).symm.trans (by decide +kernel))
  have htop : fraction "yPercent" = none :=
    Except.ok.inj ((hfraction _ (by simp [placeFractions])).symm.trans rfl)
  have hacross : fraction "widthPercent" = none :=
    Except.ok.inj ((hfraction _ (by simp [placeFractions])).symm.trans rfl)
  have hdown : fraction "heightPercent" = none :=
    Except.ok.inj ((hfraction _ (by simp [placeFractions])).symm.trans rfl)
  have hy : position "y" = none :=
    Except.ok.inj ((hposition _ (by simp [positionNames])).symm.trans (by decide +kernel))
  have hwidth : size "width" = some 50 :=
    Except.ok.inj ((hsize _ (by simp [sizeNames])).symm.trans (by decide +kernel))
  have hheight : size "height" = none :=
    Except.ok.inj ((hsize _ (by simp [sizeNames])).symm.trans rfl)
  have hzero : (0 : Binary64).toRat = 0 := Binary64.toRat_ofNat (n := 0) (by simp)
  have hfifty : (50 : Binary64).toRat = 50 := Binary64.toRat_ofNat (n := 50) (by simp)
  refine ⟨g, hg, ?_⟩
  rw [(hlayout 411 823).2 ⟨"xPercent", by simp [placeFractions], by simp [hleft]⟩, hleft, htop,
    hacross, hdown, hy, hwidth, hheight]
  simp [share, exactOr, hzero, hfifty]

end Geometry

end Maquette
