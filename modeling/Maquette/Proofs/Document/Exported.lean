import Maquette.Document
import Maquette.Proofs.Screen.Exported

/-!
# Screens without loss

Reading a saved screen keeps every object in the list of its components, as it was and
in its place. What the screen is exported as is then read as the same screen, so nothing
that a document depends on is lost on the way through another export.
-/

namespace Maquette

theorem Component.ofFields_source {entry : Json} {c : Component} (h : ofValue? entry = some c) :
    c = ofFields c.source := by
  cases entry with
  | object fields =>
    obtain rfl := Option.some.inj h
    rfl
  | _ => cases h

namespace Screen

variable {fields : Fields} {entries : List Json}

/-- The components of the screen are the objects among these entries, each as it was. -/
def Keeps (s : Screen) (entries : List Json) : Prop :=
  s.components.map Component.toJson = entries.filter (·.fields?.isSome) ∧
    ∀ c ∈ s.components, c = Component.ofFields c.source

theorem keeps_componentEntries (fields : Fields) :
    (ofFields fields).Keeps (componentEntries fields) := by
  refine ⟨Component.map_toJson_filterMap_ofValue? _, ?_⟩
  intro c hc
  obtain ⟨entry, -, hentry⟩ := List.mem_filterMap.1 hc
  exact Component.ofFields_source hentry

theorem componentEntries_of_dropped
    (h : (fields.get "content").fieldsOrNone.get "droppedComponents" = .array entries) :
    componentEntries fields = entries := by
  rw [componentEntries, h, Json.items?]

theorem componentEntries_of_not_dropped
    (h : ((fields.get "content").fieldsOrNone.get "droppedComponents").items? = none) :
    componentEntries fields = (fields.get "components").items?.getD [] := by
  rw [componentEntries, h]

/-- The text displays the first of two values that is given, or it is a default. -/
def IsFirstGiven (text : String) (first second : Json) (default : String) : Prop :=
  first.isPresent = true ∧ text = first.display ∨
    first.isPresent = false ∧ second.isPresent = true ∧ text = second.display ∨
    first.isPresent = false ∧ second.isPresent = false ∧ text = default

/-- What the screen has besides its components is taken from these fields. Properties of the
screen itself go before those of its content, whatever is in them. -/
structure TakenFrom (s : Screen) (fields : Fields) : Prop where
  name : IsFirstGiven s.name (fields.get "name") (fields.get "screenName") "home"
  title : IsFirstGiven s.title (fields.get "originalName") (fields.get "name") "Home"
  own_properties : ∀ own, fields.get "screenProperties" = .object own → s.properties = own
  content_properties : (fields.get "screenProperties").fields? = none →
    s.properties = ((fields.get "content").fieldsOrNone.get "screenProperties").fieldsOrNone
  metadata : s.metadata = (fields.get "metadata").fieldsOrNone

theorem isFirstGiven_firstPresent (first second : Json) (default : String) :
    IsFirstGiven (Json.firstPresent [first, second] (.string default)).display first second
      default := by
  unfold IsFirstGiven Json.firstPresent Json.firstPresent?
  cases hfirst : first.isPresent with
  | true => simp [hfirst]
  | false =>
    cases hsecond : second.isPresent with
    | true => simp [hfirst, hsecond]
    | false => simp [hfirst, hsecond]

theorem takenFrom_ofFields (fields : Fields) : (ofFields fields).TakenFrom fields where
  name := isFirstGiven_firstPresent _ _ _
  title := isFirstGiven_firstPresent _ _ _
  own_properties own hown := by
    rw [ofFields, propertyFields, hown]
    rfl
  content_properties hnone := by rw [ofFields, propertyFields, hnone]
  metadata := rfl

/-- Nothing of a saved screen is lost. Its components are the objects in the list of
dropped components, even if that is empty, and those in the plain list where the dropped
ones are no list. Its names, its properties and its metadata are those that were saved, and
neither of its names is empty. What it is exported as is the same screen with the same
document. -/
theorem keeps_and_exported (value : Json) :
    let s := ofValue value
    let dropped := (value.fieldsOrNone.get "content").fieldsOrNone.get "droppedComponents"
    let plain := value.fieldsOrNone.get "components"
    (∀ entries, dropped = .array entries → s.Keeps entries) ∧
      (dropped.items? = none → ∀ entries, plain = .array entries → s.Keeps entries) ∧
      (dropped.items? = none → plain.items? = none → s.components = []) ∧
      s.name ≠ "" ∧ s.title ≠ "" ∧
      s.TakenFrom value.fieldsOrNone ∧
      ofValue s.toJson = s ∧
      ∀ appName, Document.ofValue appName s.toJson = Document.ofValue appName value := by
  intro s dropped plain
  have hkeeps := keeps_componentEntries value.fieldsOrNone
  refine ⟨?_, ?_, ?_, name_ne_empty value, title_ne_empty value, takenFrom_ofFields _,
    ofValue_toJson value, ?_⟩
  · intro entries hdropped
    rw [componentEntries_of_dropped hdropped] at hkeeps
    exact hkeeps
  · intro hdropped entries hplain
    have hitems : (value.fieldsOrNone.get "components").items? = some entries := by
      rw [show value.fieldsOrNone.get "components" = .array entries from hplain, Json.items?]
    rw [componentEntries_of_not_dropped hdropped, hitems, Option.getD_some] at hkeeps
    exact hkeeps
  · intro hdropped hplain
    rw [componentEntries_of_not_dropped hdropped, hplain, Option.getD_none] at hkeeps
    exact List.map_eq_nil_iff.1 hkeeps.1
  · intro appName
    rw [Document.ofValue, Document.ofValue, ofValue_toJson]

/-- A screen saved in both shapes, with a name that is no text and with properties of its own
that are empty. -/
def twiceSaved : Json :=
  .object [
    ("name", .bool false),
    ("content", .object [
      ("droppedComponents", .array []),
      ("screenProperties", .object [("color", .string "red")])]),
    ("components", .array [.object [("type", .string "Text")]]),
    ("screenProperties", .object [])]

theorem exported_twiceSaved :
    (ofValue twiceSaved).components = [] ∧ (ofValue twiceSaved).name = "False" ∧
      (ofValue twiceSaved).properties = [] ∧
      ofValue (ofValue twiceSaved).toJson = ofValue twiceSaved := by
  obtain ⟨hdropped, -, -, -, -, htaken, hexported, -⟩ := keeps_and_exported twiceSaved
  have hkeeps := hdropped [] rfl
  exact ⟨List.map_eq_nil_iff.1 hkeeps.1, rfl, htaken.own_properties [] rfl, hexported⟩

end Screen

end Maquette
