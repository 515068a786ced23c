import Maquette.Property

/-!
# Components

A component is one element that was dropped on a screen. Its type is a name in
which case and surrounding white space do not count; its properties, position,
size and responsive values are fields, empty whenever the builder saved
something that is not an object. The object it was read from is kept, since it
is exported unchanged.
-/

namespace Maquette

/-- One element of a screen. -/
structure Component where
  type : String
  props : Fields
  position : Fields
  size : Fields
  responsive : Fields
  source : Fields

namespace Component

/-- The component that an object describes. -/
def ofFields (fields : Fields) : Component where
  type := (fields.get "type").string?.getD ""
  props := (fields.get "props").fieldsOrNone
  position := (fields.get "position").fieldsOrNone
  size := (fields.get "size").fieldsOrNone
  responsive := (fields.get "responsive").fieldsOrNone
  source := fields

/-- The component that a value describes, if it is an object. -/
def ofValue? (value : Json) : Option Component :=
  value.fields?.map ofFields

/-- The exported form of a component. -/
def toJson (c : Component) : Json :=
  .object c.source

def typeKey (c : Component) : String :=
  Text.key c.type

/-- The types that stand for the app bar of a screen. -/
def headerTypes : List String := ["appheader", "appbar", "header", "topbar"]

/-- The component stands for the app bar and has no place on the screen. -/
def isHeader (c : Component) : Bool :=
  headerTypes.contains c.typeKey

/-- A responsive value, if it is defined: a fraction of the viewport. -/
def fraction? (c : Component) (name : String) : Except NumberError (Option Binary64) :=
  (c.responsive.get name).number?

/-- Some responsive value that places or sizes the component is defined. -/
def hasResponsiveGeometry (c : Component) : Except NumberError Bool := do
  if (← c.fraction? "xPercent").isSome then return true
  if (← c.fraction? "yPercent").isSome then return true
  if (← c.fraction? "widthPercent").isSome then return true
  return (← c.fraction? "heightPercent").isSome

end Component

end Maquette
