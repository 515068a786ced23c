import Maquette.Proofs.Document.Parts
import Maquette.Proofs.Widget.Readable

/-!
# Screens that compile

A screen compiles exactly when every number that it is made of can be read:
those of its first header, and those of the place and the widget of each
component on its stack. Nothing else about a screen matters, so this is the
whole error behaviour of the compiler.

The values that a component reads depend on its type and on which of its
properties are given. That is why they are listed for each type in
`Maquette.Proofs.Widget.Readable` and only picked by the type here.
-/

namespace Maquette

namespace Component

/-- The widget of a component can be read. The placeholder of an unknown type
reads nothing. -/
def hasReadableWidget (c : Component) : Bool :=
  match c.typeKey with
  | "text" => (Label.values c).all Json.isReadable
  | "heading" => Heading.isLevel (c.props.get "level") && (Heading.values c).all Json.isReadable
  | "button" => (Button.values c).all Json.isReadable
  | "card" => (Card.values c).all Json.isReadable
  | "icon" => (IconMark.values c).all Json.isReadable
  | "image" => (Picture.values c).all Json.isReadable
  | "container" => (Box.values c).all Json.isReadable
  | _ => true

/-- The widget and the place of a component can be read. -/
def isReadable (c : Component) : Bool :=
  c.hasReadableWidget && c.placeValues.all Json.isReadable

end Component

theorem Widget.isOk_ofComponent (c : Component) :
    (ofComponent c).isOk = c.hasReadableWidget := by
  unfold ofComponent Component.hasReadableWidget
  split
  · next h => simpa [h] using Label.isOk_ofComponent c
  · next h => simpa [h] using Heading.isOk_ofComponent c
  · next h => simpa [h] using Button.isOk_ofComponent c
  · next h => simpa [h] using Card.isOk_ofComponent c
  · next h => simpa [h] using IconMark.isOk_ofComponent c
  · next h => simpa [h] using Picture.isOk_ofComponent c
  · next h => simpa [h] using Box.isOk_ofComponent c
  · next h => simp

theorem Component.isOk_reading (c : Component) : c.reading.isOk = c.isReadable := by
  rw [reading, isReadable]
  exact isOk_bind (Widget.isOk_ofComponent c) fun w => by
    rw [isOk_bind (Geometry.isOk_ofComponent c) fun _ => isOk_pure _, Bool.and_true]

namespace Json

/-- The value means a number. -/
def isNumber (value : Json) : Bool :=
  match value.number? with
  | .ok (some _) => true
  | _ => false

/-- The values up to the first one that means a number. -/
def throughNumber : List Json → List Json
  | [] => []
  | value :: rest => if value.isNumber then [value] else value :: throughNumber rest

theorem all_throughNumber_cons (value : Json) (rest : List Json) :
    (throughNumber (value :: rest)).all isReadable =
      (value.isReadable && (value.isNumber || (throughNumber rest).all isReadable)) := by
  rw [throughNumber]
  cases value.isNumber with
  | true => simp
  | false => simp

/-- What follows a number is read only if there was no number. -/
theorem isOk_number?_bind {α : Type} (value : Json)
    (f : Option Binary64 → Except NumberError α) (b : Bool) (hsome : ∀ x, (f (some x)).isOk = true)
    (hnone : (f none).isOk = b) :
    (value.number? >>= f).isOk = (value.isReadable && (value.isNumber || b)) := by
  rw [← isOk_number?]
  unfold isNumber
  cases value.number? with
  | error e => rfl
  | ok found =>
    cases found with
    | none => exact hnone
    | some x => exact hsome x

end Json

namespace Header

/-- The values that the size of a title is read from: each one only if those in
front of it mean no number. -/
def titleSizeValues (c : Component) : List Json :=
  Json.throughNumber [
    c.responsive.get "titleFontPercent", c.props.get "titleSize", c.props.get "fontSize"]

theorem isOk_titleSizeOf (c : Component) :
    (titleSizeOf c).isOk = (titleSizeValues c).all Json.isReadable := by
  have hlast : (Json.throughNumber [c.props.get "fontSize"]).all Json.isReadable =
      (c.props.get "fontSize").isReadable := by
    rw [Json.throughNumber]
    split <;> simp [Json.throughNumber]
  rw [titleSizeValues, Json.all_throughNumber_cons, Json.all_throughNumber_cons, hlast]
  refine Json.isOk_number?_bind _ _ _ (fun fraction => isOk_pure _) ?_
  refine Json.isOk_number?_bind _ _ _ (fun points => isOk_pure _) ?_
  exact (isOk_bind (Json.isOk_numberOr _ _) fun points => isOk_pure _).trans (Bool.and_true _)

/-- The values that the app bar of a header component reads as numbers. -/
def values (c : Component) : List Json :=
  c.props.get "height" :: titleSizeValues c

theorem isOk_ofComponent (appName : Json) (c : Component) :
    (ofComponent appName c).isOk = (values c).all Json.isReadable := by
  rw [values, List.all_cons, Bool.and_comm, ofComponent]
  exact isOk_bind (isOk_titleSizeOf c) fun titleSize => by
    rw [isOk_bind (Json.isOk_numberAtLeast _ _ _) fun _ => isOk_pure _, Bool.and_true]

end Header

namespace Arrangement

theorem isOk_header? (appName : Json) (a : Arrangement) :
    (a.header? appName).isOk =
      a.headers.head?.all fun c => (Header.values c).all Json.isReadable := by
  unfold header?
  cases a.headers with
  | nil => rfl
  | cons first rest => simpa using Header.isOk_ofComponent appName first

end Arrangement

namespace Screen

/-- Every number that a screen is made of can be read: those of its first header
component, and those of its other components that are no header. -/
def isReadable (s : Screen) : Bool :=
  let arrangement := Arrangement.ofComponents s.components
  (arrangement.headers.head?.all fun c => (Header.values c).all Json.isReadable) &&
    arrangement.placed.all Component.isReadable

end Screen

namespace Document

theorem isOk_ofScreen (appName : Json) (screen : Screen) :
    (ofScreen appName screen).isOk = screen.isReadable := by
  cases h : screen.components.isEmpty with
  | true =>
    rw [ofScreen, if_pos h]
    simp [Screen.isReadable, Arrangement.ofComponents, List.isEmpty_iff.1 h]
  | false =>
    rw [ofScreen_of_components appName h, Screen.isReadable]
    refine isOk_bind (Arrangement.isOk_header? appName _) fun header => ?_
    rw [isOk_bind (isOk_mapM _ _) fun _ => isOk_pure _, Bool.and_true]
    simp only [Component.isOk_reading]

theorem exists_of_isReadable (appName value : Json)
    (h : (Screen.ofValue value).isReadable = true) :
    ∃ document, ofValue appName value = .ok document := by
  rwa [exists_eq_ok_iff, ofValue, isOk_ofScreen]

/-- A screen that shows one text. -/
def oneText (text : String) : Json :=
  .object [("components", .array [.object [
    ("type", .string "Text"), ("props", .object [("text", .string text)])]])]

/-- A value compiles exactly when every number that its screen is made of can be
read, whatever the app is named: to the page that welcomes its reader if there
are no components, and to a document of its own if there are. -/
theorem compiles_iff_isReadable (appName value : Json) :
    (∃ document, ofValue appName value = .ok document ∧
      if (Screen.ofValue value).components.isEmpty then
        document = welcome appName (Screen.ofValue value).name
      else document.isFallback = false) ↔
    (Screen.ofValue value).isReadable = true := by
  rw [← isOk_ofScreen appName, ← exists_eq_ok_iff, ofValue]
  constructor
  · rintro ⟨document, hdocument, -⟩
    exact ⟨document, hdocument⟩
  · rintro ⟨document, hdocument⟩
    refine ⟨document, hdocument, ?_⟩
    cases h : (Screen.ofValue value).components.isEmpty with
    | true =>
      rw [ofScreen, if_pos h] at hdocument
      exact (Except.ok.inj hdocument).symm
    | false =>
      obtain ⟨header, read, -, -, rfl⟩ := exists_of_ofScreen_eq_ok h hdocument
      rfl

/-- A text whose font size is an integer that no double can hold. -/
def oversizedText : Json :=
  .object [("components", .array [.object [
    ("type", .string "Text"),
    ("props", .object [("fontSize", .integer (Nat.pow 10 200 * Nat.pow 10 200))])]])]

set_option maxRecDepth 10000 in
/-- Such a text fails instead of being written in the default size. -/
theorem ofValue_oversizedText :
    ofValue (.string "App") oversizedText = .error .integerTooLarge := by
  rfl

end Document

end Maquette
