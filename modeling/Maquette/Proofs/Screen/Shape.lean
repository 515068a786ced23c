import Mathlib.Data.List.Forall2
import Maquette.Header
import Maquette.Proofs.Json.Shape
import Maquette.Proofs.Widget.Given
import Maquette.Screen

/-!
# The shape of a screen

Which fields a screen is read in as objects, lists, texts and numbers: those that hold
its components and properties, the parts of a component, and the numbers of its place
and of the app bar. The properties of a component that is placed on the screen are read
as they are.

If something of the wrong shape is removed from a saved screen, the screen that is read
off it has the same properties and components that are read alike.
-/

namespace Maquette

namespace Component

/-- The properties of a header component that are read as numbers. -/
def barKeys : List String := ["height", "titleSize", "fontSize"]

def responsiveKeys : List String := [
  "xPercent", "yPercent", "widthPercent", "heightPercent", "fontPercent", "titleFontPercent"]

/-- The shape of a saved component. -/
def shape (header : Bool) : Shape := .object [
  ("type", .text),
  ("props", .numbers (if header then barKeys else [])),
  ("position", .numbers ["x", "y"]),
  ("size", .numbers ["width", "height"]),
  ("responsive", .numbers responsiveKeys)]

/-- The shape of an entry in a list of components. -/
def entryShape (entry : Json) : Shape :=
  shape ((ofValue? entry).any isHeader)

/-- Two components that are read alike. -/
structure ReadAlike (c c' : Component) : Prop where
  type_eq : c.type = c'.type
  props_eq : c.isHeader = false → c.props = c'.props
  bar_eq : ∀ key ∉ barKeys, c.props.get key = c'.props.get key
  barNumber_eq : ∀ key, (c.props.get key).number? = (c'.props.get key).number?
  position_eq : ∀ name, (c.position.get name).number? = (c'.position.get name).number?
  size_eq : ∀ name, (c.size.get name).number? = (c'.size.get name).number?
  fraction?_eq : ∀ name, c.fraction? name = c'.fraction? name

theorem ReadAlike.refl (c : Component) : c.ReadAlike c where
  type_eq := rfl
  props_eq _ := rfl
  bar_eq _ _ := rfl
  barNumber_eq _ := rfl
  position_eq _ := rfl
  size_eq _ := rfl
  fraction?_eq _ := rfl

/-- Saved components that are alike are read alike. -/
theorem readAlike_ofFields {fields fields' : Fields}
    (h : (shape (ofFields fields).isHeader).Alike (.object fields) (.object fields')) :
    (ofFields fields).ReadAlike (ofFields fields') := by
  have htype := (h.get "type" rfl).string?_eq
  have hprops := h.get "props" rfl
  have hposition := h.get "position" rfl
  have hsize := h.get "size" rfl
  have hresponsive := h.get "responsive" rfl
  constructor
  · exact congrArg (Option.getD · "") htype
  · intro hheader
    rw [hheader] at hprops
    exact hprops.fieldsOrNone_eq
  · intro key hkey
    refine hprops.get_numbers_eq fun hmem => hkey ?_
    cases hheader : (ofFields fields).isHeader with
    | true => rwa [hheader] at hmem
    | false =>
      rw [hheader] at hmem
      cases hmem
  · exact hprops.number?_get_eq
  · exact hposition.number?_get_eq
  · exact hsize.number?_get_eq
  · exact hresponsive.number?_get_eq

theorem entryShape_object (fields : Fields) :
    entryShape (.object fields) = shape (ofFields fields).isHeader := by
  rw [entryShape, ofValue?, Json.fields?, Option.map_some, Option.any_some]

/-- A change inside of an entry leaves a component that is read alike. -/
theorem exists_of_pruned {entry entry' : Json} (h : (entryShape entry).Pruned entry entry') :
    ∃ c c', ofValue? entry = some c ∧ ofValue? entry' = some c' ∧ c.ReadAlike c' := by
  obtain ⟨fields, fields', rfl, rfl⟩ := h.exists_objects
  rw [entryShape_object] at h
  exact ⟨ofFields fields, ofFields fields', rfl, rfl, readAlike_ofFields (.pruned h)⟩

/-- Lists that are alike are both none, or have components that are read alike. -/
theorem forall₂_of_alike {value value' : Json}
    (h : (Shape.array entryShape).Alike value value') :
    (value.items? = none ∧ value'.items? = none) ∨
      ∃ entries entries', value.items? = some entries ∧ value'.items? = some entries' ∧
        List.Forall₂ ReadAlike (entries.filterMap ofValue?) (entries'.filterMap ofValue?) := by
  have hsame (cs : List Component) : List.Forall₂ ReadAlike cs cs :=
    List.forall₂_same.2 fun c _ => ReadAlike.refl c
  cases h with
  | same =>
    cases hitems : value.items? with
    | none => exact .inl ⟨rfl, rfl⟩
    | some entries => exact .inr ⟨entries, entries, rfl, rfl, hsame _⟩
  | removed hvalue =>
    rw [Shape.Fits, Bool.not_eq_true, Option.isSome_eq_false_iff, Option.isNone_iff_eq_none] at hvalue
    exact .inl ⟨hvalue, rfl⟩
  | pruned hvalue =>
    cases hvalue with
    | @item _ before after entry hentry =>
      have hnone : ofValue? entry = none := by
        rw [ofValue?, Shape.fields?_of_not_fits hentry]
        rfl
      refine .inr ⟨_, _, rfl, rfl, ?_⟩
      rw [List.filterMap_append, List.filterMap_append, List.filterMap_cons_none hnone]
      exact hsame _
    | @inItem _ before after entry entry' hentry =>
      obtain ⟨c, c', hc, hc', hread⟩ := exists_of_pruned hentry
      refine .inr ⟨_, _, rfl, rfl, ?_⟩
      rw [List.filterMap_append, List.filterMap_append, List.filterMap_cons_some hc,
        List.filterMap_cons_some hc']
      exact List.rel_append (hsame _) (.cons hread (hsame _))

end Component

namespace Screen

/-- The fields that hold the components and properties of a screen, whether they are
saved in its content or beside it. -/
def partShapes : List (String × Shape) := [
  ("droppedComponents", .array Component.entryShape),
  ("components", .array Component.entryShape),
  ("screenProperties", .object []),
  ("metadata", .object [])]

/-- The shape of a saved screen. -/
def shape : Shape :=
  .object (("content", .object partShapes) :: partShapes)

variable {value value' : Json}

/-- Saved screens that are alike have the same properties. -/
theorem properties_ofValue_eq (h : shape.Alike value value') :
    (ofValue value).properties = (ofValue value').properties := by
  have hcontent := h.get "content" rfl
  have hinside := (hcontent.get "screenProperties" rfl).fieldsOrNone_eq
  have hbeside := (h.get "screenProperties" rfl).fields?_eq
  change propertyFields value.fieldsOrNone = propertyFields value'.fieldsOrNone
  rw [propertyFields, hbeside, hinside, propertyFields]

/-- Saved screens that are alike have components that are read alike. -/
theorem forall₂_components_ofValue (h : shape.Alike value value') :
    List.Forall₂ Component.ReadAlike (ofValue value).components (ofValue value').components := by
  have hcontent := h.get "content" rfl
  have hdropped := Component.forall₂_of_alike (hcontent.get "droppedComponents" rfl)
  have hplain := Component.forall₂_of_alike (h.get "components" rfl)
  change List.Forall₂ _ ((componentEntries value.fieldsOrNone).filterMap _)
    ((componentEntries value'.fieldsOrNone).filterMap _)
  unfold componentEntries
  obtain ⟨hnone, hnone'⟩ | ⟨entries, entries', hsome, hsome', hread⟩ := hdropped
  · rw [hnone, hnone']
    obtain ⟨hnone, hnone'⟩ | ⟨entries, entries', hsome, hsome', hread⟩ := hplain
    · rw [hnone, hnone']
      exact .nil
    · rw [hsome, hsome']
      exact hread
  · rw [hsome, hsome']
    exact hread

end Screen

end Maquette
