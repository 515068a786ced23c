import Maquette.Geometry
import Maquette.Proofs.Outcome

/-!
# Components in the reference frame

A component is placed in the reference frame exactly if none of the four responsive
values that place or size it is defined. Whether its geometry needs the scales of the
frame depends on nothing else, and all of the geometry on these four values and the
four numbers of its position and size: `ReadFrom` tells what it is with either kind of
placement.
-/

namespace Maquette

namespace Component

/-- The component is placed in the reference frame. -/
def isFramed (c : Component) : Bool :=
  match c.hasResponsiveGeometry with
  | .ok responsive => !responsive
  | .error _ => false

/-- The names of the responsive values that place or size a component. -/
def placeFractions : List String := ["xPercent", "yPercent", "widthPercent", "heightPercent"]

/-- A value that is asked for first settles the matter only if it is defined or cannot be
read. -/
theorem askThen_eq_false_iff {x : Except NumberError (Option Binary64)}
    {rest : Except NumberError Bool} :
    (do if (← x).isSome then return true else rest : Except NumberError Bool) = .ok false ↔
      x = .ok none ∧ rest = .ok false := by
  cases x with
  | error e => simp [bind, Except.bind]
  | ok found => cases found <;> simp [bind, Except.bind, pure, Except.pure]

theorem hasResponsiveGeometry_eq_false_iff (c : Component) :
    c.hasResponsiveGeometry = .ok false ↔
      ∀ name ∈ placeFractions, c.fraction? name = .ok none := by
  have hlast : (do return (← c.fraction? "heightPercent").isSome : Except NumberError Bool) =
      .ok false ↔ c.fraction? "heightPercent" = .ok none := by
    cases c.fraction? "heightPercent" with
    | error e => simp [bind, Except.bind]
    | ok found => cases found <;> simp [bind, Except.bind, pure, Except.pure]
  rw [hasResponsiveGeometry, askThen_eq_false_iff, askThen_eq_false_iff, askThen_eq_false_iff,
    hlast]
  simp [placeFractions]

theorem isFramed_iff (c : Component) :
    c.isFramed = true ↔ ∀ name ∈ placeFractions, c.fraction? name = .ok none := by
  rw [← hasResponsiveGeometry_eq_false_iff, isFramed]
  cases c.hasResponsiveGeometry with
  | error e => simp
  | ok responsive => simp

end Component

namespace Geometry

open Component (placeFractions)

/-- The names of the fields that hold the pixels of a position. -/
def positionNames : List String := ["x", "y"]

/-- The names of the fields that hold the pixels of a size. -/
def sizeNames : List String := ["width", "height"]

/-- The geometry of a component depends on no more than these eight numbers. -/
theorem ofComponent_congr {c c' : Component}
    (hposition : ∀ name ∈ positionNames,
      (c.position.get name).number? = (c'.position.get name).number?)
    (hsize : ∀ name ∈ sizeNames, (c.size.get name).number? = (c'.size.get name).number?)
    (hfraction : ∀ name ∈ placeFractions, c.fraction? name = c'.fraction? name) :
    ofComponent c = ofComponent c' := by
  simp only [positionNames, sizeNames, placeFractions, List.mem_cons, List.not_mem_nil, or_false,
    forall_eq_or_imp, forall_eq] at hposition hsize hfraction
  unfold ofComponent Component.hasResponsiveGeometry Json.numberOr
  simp only [hposition, hsize, hfraction]

/-- A geometry whose fractions are given. -/
def responsive (left top width height : Option Binary64) (x y across down : Binary64) :
    Geometry where
  left := extentOf left x .viewportWidth
  top := extentOf top y .viewportHeight
  width := extentOf width across .viewportWidth
  height := extentOf height down .viewportHeight
  placement := .responsive

/-- A geometry in the reference frame. -/
def framed (x y across down : Binary64) : Geometry where
  left := ⟨x, .frameWidth⟩
  top := ⟨y, .frameHeight⟩
  width := ⟨across, .frameWidth⟩
  height := ⟨down, .frameHeight⟩
  placement := .framed

/-- The pixels of a position and a size, as they are read. -/
structure PixelsFrom (c : Component) (x y across down : Binary64) : Prop where
  x : (c.position.get "x").numberOr 0 = .ok x
  y : (c.position.get "y").numberOr 0 = .ok y
  across : (c.size.get "width").numberOr 100 = .ok across
  down : (c.size.get "height").numberOr 30 = .ok down

/-- A geometry as it is read: in the reference frame, or else with four fractions. -/
inductive ReadFrom (c : Component) (x y across down : Binary64) : Geometry → Prop
  | framed (h : c.hasResponsiveGeometry = .ok false) :
      ReadFrom c x y across down (framed x y across down)
  | responsive {left top width height : Option Binary64} (h : c.hasResponsiveGeometry = .ok true)
      (hleft : c.fraction? "xPercent" = .ok left) (htop : c.fraction? "yPercent" = .ok top)
      (hwidth : c.fraction? "widthPercent" = .ok width)
      (hheight : c.fraction? "heightPercent" = .ok height) :
      ReadFrom c x y across down (responsive left top width height x y across down)

theorem exists_readFrom_of_ofComponent {c : Component} {g : Geometry} (h : ofComponent c = .ok g) :
    ∃ x y across down, PixelsFrom c x y across down ∧ ReadFrom c x y across down g := by
  obtain ⟨x, hx, h⟩ := exists_of_bind_eq_ok h
  obtain ⟨y, hy, h⟩ := exists_of_bind_eq_ok h
  obtain ⟨across, hacross, h⟩ := exists_of_bind_eq_ok h
  obtain ⟨down, hdown, h⟩ := exists_of_bind_eq_ok h
  obtain ⟨isResponsive, hresponsive, h⟩ := exists_of_bind_eq_ok h
  refine ⟨x, y, across, down, ⟨hx, hy, hacross, hdown⟩, ?_⟩
  cases isResponsive with
  | false =>
    obtain rfl := Except.ok.inj h
    exact .framed hresponsive
  | true =>
    obtain ⟨left, hleft, h⟩ := exists_of_bind_eq_ok h
    obtain ⟨top, htop, h⟩ := exists_of_bind_eq_ok h
    obtain ⟨width, hwidth, h⟩ := exists_of_bind_eq_ok h
    obtain ⟨height, hheight, h⟩ := exists_of_bind_eq_ok h
    obtain rfl := Except.ok.inj h
    exact .responsive hresponsive hleft htop hwidth hheight

theorem usesFrame_of_ofComponent {c : Component} {g : Geometry}
    (h : ofComponent c = .ok g) : g.usesFrame = c.isFramed := by
  obtain ⟨x, y, across, down, -, hread⟩ := exists_readFrom_of_ofComponent h
  cases hread with
  | framed hresponsive =>
    rw [Component.isFramed, hresponsive]
    rfl
  | responsive hresponsive =>
    rw [Component.isFramed, hresponsive]
    rfl

end Geometry

end Maquette
