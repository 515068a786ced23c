import Maquette.Component
import Maquette.Text.Line

/-!
# Geometry

Where a component sits on its screen, in one of two ways. As soon as one of its
four responsive values is defined, each axis goes its own way: a fraction of the
viewport where one is defined, plain pixels elsewhere. With none of them, all
four values are pixels of a reference frame that is scaled to the viewport.

A value on an axis is a number with a basis, and the basis alone decides how the
value is written in code and what it comes to on a given viewport. `evaluate` is
stated for any arithmetic, so that it can be read as what the app computes and
as exact arithmetic alike.
-/

namespace Maquette

/-- What a value on an axis is measured in. -/
inductive Basis
  | pixels
  | viewportWidth
  | viewportHeight
  | frameWidth
  | frameHeight
deriving DecidableEq

namespace Basis

def referenceWidth : Binary64 := 360

def referenceHeight : Binary64 := 720

/-- The name of the scale of the reference frame across. -/
def scaleAcross : String := "sx"

/-- The name of the scale of the reference frame down. -/
def scaleDown : String := "sy"

/-- The name of a basis in code; plain pixels have none. -/
def name? : Basis → Option String
  | pixels => none
  | viewportWidth => some "maxWidth"
  | viewportHeight => some "maxHeight"
  | frameWidth => some scaleAcross
  | frameHeight => some scaleDown

end Basis

/-- A value on an axis. -/
structure Extent where
  value : Binary64
  basis : Basis
deriving DecidableEq

namespace Extent

/-- The code of a value on an axis. -/
def code (e : Extent) : String :=
  match e.basis with
  | .pixels => e.value.fractionLiteral
  | .viewportWidth => "constraints.maxWidth * " ++ e.value.literal
  | .viewportHeight => "constraints.maxHeight * " ++ e.value.literal
  | .frameWidth => e.value.fractionLiteral ++ " * " ++ Basis.scaleAcross
  | .frameHeight => e.value.fractionLiteral ++ " * " ++ Basis.scaleDown

/-- What a value on an axis comes to on a viewport, in an arithmetic that the
numbers are taken into by `cast`. -/
def evaluateIn {α : Type} [Mul α] [Div α] (cast : Binary64 → α) (e : Extent)
    (width height : α) : α :=
  match e.basis with
  | .pixels => cast e.value
  | .viewportWidth => cast e.value * width
  | .viewportHeight => cast e.value * height
  | .frameWidth => cast e.value * (width / cast Basis.referenceWidth)
  | .frameHeight => cast e.value * (height / cast Basis.referenceHeight)

/-- What a value on an axis comes to on a viewport, every step rounded. -/
def evaluate (e : Extent) (width height : Binary64) : Binary64 :=
  e.evaluateIn id width height

/-- What a value on an axis comes to on a viewport whose sides are given as
values. A side is a number only if the value on the axis is measured in it. -/
def evaluateOn (e : Extent) (width height : Json) : Except NumberError Binary64 :=
  match e.basis with
  | .pixels => .ok e.value
  | .viewportWidth | .frameWidth => width.toBinary64.map fun side => e.evaluate side 0
  | .viewportHeight | .frameHeight => height.toBinary64.map fun side => e.evaluate 0 side

end Extent

/-- Which of the two ways a component is placed. -/
inductive Placement
  | responsive
  | framed
deriving DecidableEq

/-- Where a component sits. -/
structure Geometry where
  left : Extent
  top : Extent
  width : Extent
  height : Extent
  placement : Placement
deriving DecidableEq

namespace Geometry

/-- A fraction of the viewport if one is defined, plain pixels if not. -/
def extentOf (fraction : Option Binary64) (pixels : Binary64) (basis : Basis) : Extent :=
  match fraction with
  | some value => ⟨value, basis⟩
  | none => ⟨pixels, .pixels⟩

def ofComponent (c : Component) : Except NumberError Geometry := do
  let x ← (c.position.get "x").numberOr 0
  let y ← (c.position.get "y").numberOr 0
  let width ← (c.size.get "width").numberOr 100
  let height ← (c.size.get "height").numberOr 30
  if ← c.hasResponsiveGeometry then
    return {
      left := extentOf (← c.fraction? "xPercent") x .viewportWidth
      top := extentOf (← c.fraction? "yPercent") y .viewportHeight
      width := extentOf (← c.fraction? "widthPercent") width .viewportWidth
      height := extentOf (← c.fraction? "heightPercent") height .viewportHeight
      placement := .responsive }
  else
    return {
      left := ⟨x, .frameWidth⟩
      top := ⟨y, .frameHeight⟩
      width := ⟨width, .frameWidth⟩
      height := ⟨height, .frameHeight⟩
      placement := .framed }

/-- The geometry needs the scales of the reference frame. -/
def usesFrame (g : Geometry) : Bool :=
  g.placement == .framed

/-- The code that places a finished snippet, so many levels in. The snippet was
indented one level further; it begins on the line of its label, so the white
space in front of it goes. -/
def positioned (g : Geometry) (snippet : List Char) (level : Int) : String :=
  let margin := String.ofList (List.replicate (Text.levelMargin level) ' ')
  margin ++ "Positioned(\n" ++
  margin ++ "  left: " ++ g.left.code ++ ",\n" ++
  margin ++ "  top: " ++ g.top.code ++ ",\n" ++
  margin ++ "  width: " ++ g.width.code ++ ",\n" ++
  margin ++ "  height: " ++ g.height.code ++ ",\n" ++
  margin ++ "  child: " ++ String.ofList (Text.trimLeft snippet) ++ ",\n" ++
  margin ++ ")"

end Geometry

end Maquette
