import Maquette.Geometry
import Maquette.Proofs.Number.Overflow
import Maquette.Proofs.Outcome

/-!
# Values that can be read as numbers

A loosely typed number is read from any value, and a value that means no number
gives way to a default. The one value that is refused is an integer past the
overflow bound of the doubles. `isReadable` says so of a single value, and every
reader of numbers is shown to succeed exactly on the readable ones. Where several
values are read one after another, all of them are read or none is: the outcome
is the conjunction over the list of the values, whatever was found on the way.
-/

namespace Maquette

namespace Json

/-- The value can be read as a number: it is no integer past the largest
double. -/
def isReadable : Json → Bool
  | integer n => decide (n.natAbs < Binary64.integerLimit)
  | _ => true

theorem isOk_ofIntChecked (n : Int) :
    (Binary64.ofIntChecked n).isOk = (integer n).isReadable := by
  unfold Binary64.ofIntChecked
  by_cases h : (Binary64.ofInt n).isFinite = true
  · rw [if_pos h]
    simpa [isReadable] using (Binary64.isFinite_ofInt_iff n).1 h
  · rw [if_neg h]
    simpa [isReadable] using mt (Binary64.isFinite_ofInt_iff n).2 h

theorem isOk_number? (value : Json) : value.number?.isOk = value.isReadable := by
  cases value with
  | integer n => rw [number?, isOk_map, isOk_ofIntChecked]
  | _ => rfl

theorem isOk_numberOr (value : Json) (default : Binary64) :
    (value.numberOr default).isOk = value.isReadable := by
  rw [numberOr, isOk_bind value.isOk_number? fun _ => isOk_pure _, Bool.and_true]

theorem isOk_numberAtLeast (value : Json) (default floor : Binary64) :
    (value.numberAtLeast default floor).isOk = value.isReadable := by
  rw [numberAtLeast, isOk_bind (value.isOk_numberOr default) fun _ => isOk_pure _, Bool.and_true]

theorem isOk_isWeight (value : Json) (weights : List String) :
    (value.isWeight weights).isOk = value.isReadable := by
  cases value with
  | integer n =>
    rw [isWeight, isOk_bind (integer n).isOk_number? fun _ => isOk_pure _, Bool.and_true]
  | number x =>
    rw [isWeight, isOk_bind (number x).isOk_number? fun _ => isOk_pure _, Bool.and_true]
  | _ => rfl

end Json

namespace Component

/-- The values of a component that its place is read from. -/
def placeValues (c : Component) : List Json := [
  c.position.get "x", c.position.get "y", c.size.get "width", c.size.get "height",
  c.responsive.get "xPercent", c.responsive.get "yPercent",
  c.responsive.get "widthPercent", c.responsive.get "heightPercent"]

theorem isOk_fraction? (c : Component) (name : String) :
    (c.fraction? name).isOk = (c.responsive.get name).isReadable :=
  Json.isOk_number? _

end Component

namespace Geometry

/-- Whether a component is responsive is settled by the first responsive value
that is defined, but each of the four is read sooner or later. -/
theorem isOk_hasResponsiveGeometry_bind {α : Type} (c : Component)
    (f : Option Binary64 → Option Binary64 → Option Binary64 → Option Binary64 → α) (default : α) :
    (do
      if ← c.hasResponsiveGeometry then
        return f (← c.fraction? "xPercent") (← c.fraction? "yPercent")
          (← c.fraction? "widthPercent") (← c.fraction? "heightPercent")
      else return default : Except NumberError α).isOk =
      ((c.responsive.get "xPercent").isReadable && ((c.responsive.get "yPercent").isReadable &&
        ((c.responsive.get "widthPercent").isReadable &&
          (c.responsive.get "heightPercent").isReadable))) := by
  simp only [← Component.isOk_fraction?, Component.hasResponsiveGeometry]
  cases c.fraction? "xPercent" with
  | error e => rfl
  | ok x =>
    cases c.fraction? "yPercent" with
    | error e => cases x <;> rfl
    | ok y =>
      cases c.fraction? "widthPercent" with
      | error e => cases x <;> cases y <;> rfl
      | ok width =>
        cases c.fraction? "heightPercent" with
        | error e => cases x <;> cases y <;> cases width <;> rfl
        | ok height => cases x <;> cases y <;> cases width <;> cases height <;> rfl

theorem isOk_ofComponent (c : Component) :
    (ofComponent c).isOk = c.placeValues.all Json.isReadable := by
  have hvalues : c.placeValues.all Json.isReadable =
      ((c.position.get "x").isReadable && ((c.position.get "y").isReadable &&
        ((c.size.get "width").isReadable && ((c.size.get "height").isReadable &&
          ((c.responsive.get "xPercent").isReadable && ((c.responsive.get "yPercent").isReadable &&
            ((c.responsive.get "widthPercent").isReadable &&
              (c.responsive.get "heightPercent").isReadable))))))) := by
    simp [Component.placeValues]
  rw [hvalues, ofComponent]
  exact isOk_bind (Json.isOk_numberOr _ _) fun x => isOk_bind (Json.isOk_numberOr _ _) fun y =>
    isOk_bind (Json.isOk_numberOr _ _) fun width =>
    isOk_bind (Json.isOk_numberOr _ _) fun height => isOk_hasResponsiveGeometry_bind c _ _

end Geometry

end Maquette
