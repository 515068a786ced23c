import Maquette.Component

/-!
# Screens

Builders have saved screens in two shapes: with the dropped components inside
the content of the screen, and with a plain list of components. A `Screen` is
what both mean. Reading one never fails: what is malformed counts as missing,
and entries that are no objects are left out.

The exported form of a screen is of the second shape, and reading it gives the
screen again.
-/

namespace Maquette

/-- A page: its names, its components in painting order, and its properties. -/
structure Screen where
  name : String
  title : String
  components : List Component
  properties : Fields
  metadata : Fields

namespace Screen

/-- The list of components in the fields of a screen: the dropped ones if they
are a list, else the plain ones if they are a list. -/
def componentEntries (fields : Fields) : List Json :=
  match ((fields.get "content").fieldsOrNone.get "droppedComponents").items? with
  | some dropped => dropped
  | none => (fields.get "components").items?.getD []

/-- The properties in the fields of a screen: its own, if they are an object,
else those of its content. -/
def propertyFields (fields : Fields) : Fields :=
  match (fields.get "screenProperties").fields? with
  | some properties => properties
  | none => ((fields.get "content").fieldsOrNone.get "screenProperties").fieldsOrNone

def ofFields (fields : Fields) : Screen where
  name :=
    (Json.firstPresent [fields.get "name", fields.get "screenName"] (.string "home")).display
  title :=
    (Json.firstPresent [fields.get "originalName", fields.get "name"] (.string "Home")).display
  components := (componentEntries fields).filterMap Component.ofValue?
  properties := propertyFields fields
  metadata := (fields.get "metadata").fieldsOrNone

def ofValue (value : Json) : Screen :=
  ofFields value.fieldsOrNone

/-- The screens that a list describes; any other value describes none. -/
def listOfValue (value : Json) : List Screen :=
  (value.items?.getD []).map ofValue

/-- The exported form of a screen. -/
def toJson (s : Screen) : Json :=
  .object [
    ("screenName", .string s.name),
    ("originalName", .string s.title),
    ("components", .array (s.components.map Component.toJson)),
    ("screenProperties", .object s.properties),
    ("metadata", .object s.metadata)]

end Screen

end Maquette
