import Maquette.Proofs.Emission.Widget
import Maquette.Proofs.Geometry.Frame
import Maquette.Proofs.Json.Fields
import Maquette.Proofs.Outcome
import Maquette.Proofs.Widget.Displayed

/-!
# Components with other texts

The texts that a component displays are read from a few of its properties. Outside
of these texts its widget only depends on whether each of them is displayed: a card
without a title has a caption less, and a picture without a source is an icon.
-/

namespace Maquette

namespace Json

theorem isSome_firstPresent? (values : List Json) :
    (firstPresent? values).isSome = (values.map isPresent).any id := by
  rw [firstPresent?, List.isSome_find?, List.any_map]
  rfl

/-- What is read off the first given value of several, when it is the same for all
values, only depends on which of them are given. -/
theorem map_firstPresent?_congr {ε α β : Type} {values values' : List Json}
    {f f' : Json → Except ε (Option α)} {g : Option α → β}
    (hpresent : values.map isPresent = values'.map isPresent)
    (hf : ∀ value value', (f value).map g = (f' value').map g) :
    (match firstPresent? values with
      | none => Except.ok none
      | some value => f value).map g =
    (match firstPresent? values' with
      | none => Except.ok none
      | some value => f' value).map g := by
  have hsome := isSome_firstPresent? values
  rw [hpresent, ← isSome_firstPresent?] at hsome
  cases hold : firstPresent? values with
  | none =>
    have hnew : firstPresent? values' = none := by
      simpa [hold] using hsome.symm
    rw [hnew]
  | some value =>
    rw [hold] at hsome
    obtain ⟨value', hnew⟩ := Option.isSome_iff_exists.1 hsome.symm
    rw [hnew]
    exact hf value value'

end Json

namespace Component

/-- The properties that texts are displayed from. -/
def textKeys : List String := ["appTitle", "text", "title", "content", "description", "src"]

/-- A value of such a property is displayed: it is given, and as the source of a
picture it is a text that is not blank. -/
def isDisplayed (key : String) (value : Json) : Bool :=
  if key = "src" then !(Picture.sourceOf value).isEmpty else value.isPresent

/-- Two components that differ at most in the texts that both of them display. -/
structure Retexted (c c' : Component) : Prop where
  type_eq : c.type = c'.type
  position_eq : c.position = c'.position
  size_eq : c.size = c'.size
  responsive_eq : c.responsive = c'.responsive
  get_eq : ∀ key, key ∉ textKeys → c.props.get key = c'.props.get key
  isDisplayed_eq : ∀ key ∈ textKeys,
    isDisplayed key (c.props.get key) = isDisplayed key (c'.props.get key)

/-- A displayed text can be replaced by any other one. -/
theorem retexted_set (c : Component) {key : String} {value : Json} (hkey : key ∈ textKeys)
    (hold : isDisplayed key (c.props.get key) = true) (hnew : isDisplayed key value = true) :
    c.Retexted { c with props := c.props.set key value } where
  type_eq := rfl
  position_eq := rfl
  size_eq := rfl
  responsive_eq := rfl
  get_eq other hother := by
    have hne : other ≠ key := fun h => hother (h ▸ hkey)
    rw [Fields.get_set, if_neg hne]
  isDisplayed_eq other _ := by
    rw [Fields.get_set]
    split
    · next h => rw [h, hold, hnew]
    · rfl

namespace Retexted

variable {c c' : Component} (h : c.Retexted c')

include h

theorem typeKey_eq : c.typeKey = c'.typeKey := by
  rw [typeKey, h.type_eq, typeKey]

theorem isHeader_eq : c.isHeader = c'.isHeader := by
  rw [isHeader, h.typeKey_eq, isHeader]

theorem fraction?_eq (name : String) : c.fraction? name = c'.fraction? name := by
  rw [fraction?, h.responsive_eq, fraction?]

theorem fontSize_eq (points : Binary64) : c.fontSize points = c'.fontSize points := by
  rw [fontSize, h.fraction?_eq, fontSize]

theorem color_eq (names : List String) (default : String)
    (hnames : ∀ name ∈ names, name ∉ textKeys) :
    c.props.color names default = c'.props.color names default := by
  have hvalues : names.map c.props.get = names.map c'.props.get :=
    List.map_congr_left fun name hname => h.get_eq name (hnames name hname)
  rw [Fields.color, hvalues, Fields.color]

theorem isPresent_eq (key : String) (hkey : key ∈ textKeys) (hsrc : key ≠ "src") :
    (c.props.get key).isPresent = (c'.props.get key).isPresent := by
  have hshown := h.isDisplayed_eq key hkey
  rw [isDisplayed, isDisplayed, if_neg hsrc, if_neg hsrc] at hshown
  exact hshown

theorem ofComponent_geometry_eq : Geometry.ofComponent c = Geometry.ofComponent c' :=
  Geometry.ofComponent_congr (fun name _ => by rw [h.position_eq])
    (fun name _ => by rw [h.size_eq]) fun name _ => h.fraction?_eq name

end Retexted

end Component

namespace Widget

variable {c c' : Component}

theorem untexted_label (h : c.Retexted c') :
    (Label.ofComponent c).map (fun l => (label l).untexted) =
      (Label.ofComponent c').map (fun l => (label l).untexted) := by
  simp (disch := decide) only [Label.ofComponent, h.get_eq, h.fontSize_eq, h.color_eq,
    except_map_bind]
  rfl

theorem untexted_heading (h : c.Retexted c') :
    (Heading.ofComponent c).map (fun content => (heading content).untexted) =
      (Heading.ofComponent c').map (fun content => (heading content).untexted) := by
  simp (disch := decide) only [Heading.ofComponent, h.get_eq, h.fontSize_eq, h.color_eq,
    except_map_bind]
  rfl

theorem untexted_button (h : c.Retexted c') :
    (Button.ofComponent c).map (fun content => (button content).untexted) =
      (Button.ofComponent c').map (fun content => (button content).untexted) := by
  simp (disch := decide) only [Button.ofComponent, Button.paddingOf, h.get_eq, h.fontSize_eq,
    h.color_eq, except_map_bind]
  rfl

theorem untexted_title (h : c.Retexted c') :
    (Card.titleOf c).map (Option.map fun caption => { caption with text := "" }) =
      (Card.titleOf c').map (Option.map fun caption => { caption with text := "" }) := by
  have htitle := h.isPresent_eq "title" (by decide) (by decide)
  refine Json.map_firstPresent?_congr (by simp [htitle]) fun value value' => ?_
  simp (disch := decide) only [h.get_eq, h.fontSize_eq, h.color_eq, except_map_bind]
  rfl

theorem untexted_body (h : c.Retexted c') :
    (Card.bodyOf c.props).map (Option.map fun caption => { caption with text := "" }) =
      (Card.bodyOf c'.props).map (Option.map fun caption => { caption with text := "" }) := by
  have htext := h.isPresent_eq "text" (by decide) (by decide)
  have hcontent := h.isPresent_eq "content" (by decide) (by decide)
  have hdescription := h.isPresent_eq "description" (by decide) (by decide)
  refine Json.map_firstPresent?_congr (by simp [htext, hcontent, hdescription])
    fun value value' => ?_
  simp (disch := decide) only [h.get_eq, h.color_eq, except_map_bind]
  rfl

theorem untexted_caption (h : c.Retexted c') :
    (Box.captionOf c.props).map (Option.map fun caption => { caption with text := "" }) =
      (Box.captionOf c'.props).map (Option.map fun caption => { caption with text := "" }) := by
  have htext := h.isPresent_eq "text" (by decide) (by decide)
  refine Json.map_firstPresent?_congr (by simp [htext]) fun value value' => ?_
  simp (disch := decide) only [h.get_eq, h.color_eq, except_map_bind]
  rfl

theorem untexted_card (h : c.Retexted c') :
    (Card.ofComponent c).map (fun content => (card content).untexted) =
      (Card.ofComponent c').map (fun content => (card content).untexted) := by
  simp (disch := decide) only [Card.ofComponent, h.get_eq, h.color_eq, except_map_bind]
  refine except_bind_congr fun elevation => except_bind_congr fun radius =>
    except_bind_congr fun padding => ?_
  refine except_bind_congr_of_map (untexted_title h) fun title title' htitle => ?_
  refine except_bind_congr_of_map (untexted_body h) fun body body' hbody => ?_
  simp only [Except.map, pure, Except.pure, untexted, htitle, hbody]

theorem untexted_icon (h : c.Retexted c') :
    (IconMark.ofComponent c).map (fun content => (icon content).untexted) =
      (IconMark.ofComponent c').map (fun content => (icon content).untexted) := by
  simp (disch := decide) only [IconMark.ofComponent, h.get_eq, h.color_eq, except_map_bind]

theorem untexted_picture (h : c.Retexted c') :
    (Picture.ofComponent c).map (fun content => (picture content).untexted) =
      (Picture.ofComponent c').map (fun content => (picture content).untexted) := by
  have hsource := h.isDisplayed_eq "src" (by decide)
  rw [Component.isDisplayed, Component.isDisplayed, if_pos rfl, if_pos rfl] at hsource
  simp (disch := decide) only [Picture.ofComponent, h.get_eq, except_map_bind]
  refine except_bind_congr fun radius => ?_
  cases hold : Picture.sourceOf (c.props.get "src") with
  | nil =>
    cases hnew : Picture.sourceOf (c'.props.get "src") with
    | nil => rfl
    | cons first rest => simp [hold, hnew] at hsource
  | cons first rest =>
    cases hnew : Picture.sourceOf (c'.props.get "src") with
    | nil => simp [hold, hnew] at hsource
    | cons first' rest' => rfl

theorem untexted_box (h : c.Retexted c') :
    (Box.ofComponent c).map (fun content => (box content).untexted) =
      (Box.ofComponent c').map (fun content => (box content).untexted) := by
  simp (disch := decide) only [Box.ofComponent, h.get_eq, h.color_eq, except_map_bind]
  refine except_bind_congr fun radius => ?_
  refine except_bind_congr_of_map (untexted_caption h) fun caption caption' hcaption => ?_
  simp only [Except.map, pure, Except.pure, untexted, hcaption]

/-- Outside of its texts, the widget of a component does not depend on what the texts
are. -/
theorem map_untexted_ofComponent (h : c.Retexted c') :
    (ofComponent c).map untexted = (ofComponent c').map untexted := by
  unfold ofComponent
  rw [h.typeKey_eq]
  split
  · simpa only [except_map_map] using untexted_label h
  · simpa only [except_map_map] using untexted_heading h
  · simpa only [except_map_map] using untexted_button h
  · simpa only [except_map_map] using untexted_card h
  · simpa only [except_map_map] using untexted_icon h
  · simpa only [except_map_map] using untexted_picture h
  · simpa only [except_map_map] using untexted_box h
  · rfl

end Widget

end Maquette
