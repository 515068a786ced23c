import Maquette.Header
import Maquette.Proofs.Outcome
import Maquette.Widget.Basic

/-!
# How a component is read

Every reader is a chain of steps that may fail. What a component gives once all of them have
succeeded is told here, reader by reader and field by field, so that nothing else has to
take the chains apart: a size is known by the value that it was read from, and a caption that
may be missing by the values of which the first given one is its text.
-/

namespace Maquette

/-- A caption that may be missing, as it is read: the value that is given, if there is one,
in a size with this property and in this colour. -/
inductive Caption.ReadFrom (given : Option Json) (isSize : FontSize → Prop) (color : Color) :
    Option Caption → Prop
  | missing (h : given = none) : ReadFrom given isSize color none
  | shown {value : Json} {size : FontSize} (h : given = some value) (hsize : isSize size) :
      ReadFrom given isSize color (some ⟨value.display, size, color⟩)

namespace Caption.ReadFrom

variable {given : Option Json} {isSize : FontSize → Prop} {color : Color}
  {caption : Option Caption} (h : Caption.ReadFrom given isSize color caption)

include h

theorem map_text : caption.map Caption.text = given.map Json.display := by
  cases h with
  | missing hgiven => rw [hgiven]; rfl
  | shown hgiven => rw [hgiven]; rfl

theorem isSome_eq : caption.isSome = given.isSome := by
  cases h with
  | missing hgiven => rw [hgiven]; rfl
  | shown hgiven => rw [hgiven]; rfl

theorem isSize_of_mem : ∀ shown ∈ caption, isSize shown.size := by
  cases h with
  | missing => exact fun shown hshown => by cases hshown
  | shown _ hsize =>
    intro shown hshown
    obtain rfl := Option.some.inj hshown
    exact hsize

end Caption.ReadFrom

section Readers

variable {c : Component} {props : Fields}

namespace Label

/-- A text as it is read. -/
structure ReadFrom (c : Component) (l : Label) : Prop where
  text : l.caption.text =
    (Json.firstPresent [c.props.get "text"] (.string "Sample Text")).display
  size : ∃ points, (c.props.get "fontSize").numberAtLeast 16 12 = .ok points ∧
    c.fontSize points = .ok l.caption.size
  color : l.caption.color = c.props.color ["color"] "#000000"
  align : l.align = .ofValue (c.props.get "textAlign")
  bold : (c.props.get "fontWeight").isWeight ["bold", "700"] = .ok l.bold
  italic : l.italic = (c.props.get "fontStyle").isString "italic"

theorem readFrom_of_ofComponent {l : Label} (h : ofComponent c = .ok l) : ReadFrom c l := by
  obtain ⟨points, hpoints, h⟩ := exists_of_bind_eq_ok h
  obtain ⟨bold, hbold, h⟩ := exists_of_bind_eq_ok h
  obtain ⟨size, hsize, h⟩ := exists_of_bind_eq_ok h
  obtain rfl := Except.ok.inj h
  -- Only the projections are reduced here: `rfl` would evaluate the readers of names.
  refine ⟨rfl, ⟨points, hpoints, hsize⟩, rfl, ?_, hbold, ?_⟩
  · dsimp only
  · dsimp only

end Label

namespace Heading

/-- A heading as it is read. -/
structure ReadFrom (c : Component) (content : Heading) : Prop where
  text : content.caption.text =
    (Json.firstPresent [c.props.get "text"] (.string "Heading")).display
  size : ∃ level, levelName (Json.firstPresent [c.props.get "level"] (.string "h1")) = .ok level ∧
    c.fontSize (levelSize level) = .ok content.caption.size
  color : content.caption.color = c.props.color ["color"] "#1f2937"
  bold : content.bold = (c.props.get "fontWeight").isString "bold"

theorem readFrom_of_ofComponent {content : Heading} (h : ofComponent c = .ok content) :
    ReadFrom c content := by
  obtain ⟨level, hlevel, h⟩ := exists_of_bind_eq_ok h
  obtain ⟨size, hsize, h⟩ := exists_of_bind_eq_ok h
  obtain rfl := Except.ok.inj h
  exact ⟨rfl, ⟨level, hlevel, hsize⟩, rfl, rfl⟩

end Heading

namespace Button

/-- A button as it is read. -/
structure ReadFrom (c : Component) (b : Button) : Prop where
  text : b.text = (Json.firstPresent [c.props.get "text"] (.string "Button")).display
  background : b.background =
    .ofValue (Json.firstPresent [c.props.get "backgroundColor"] (.string "#3b82f6"))
  foreground : b.foreground = c.props.color ["color", "textColor"] "#ffffff"
  border : b.border = .ofValue (Json.firstPresent [c.props.get "borderColor"]
    (Json.firstPresent [c.props.get "backgroundColor"] (.string "#3b82f6")))
  borderWidth : (c.props.get "borderWidth").numberOr 0 = .ok b.borderWidth
  radius : (c.props.get "borderRadius").numberOr 8 = .ok b.radius
  padding : paddingOf c.props = .ok b.padding
  size : ∃ points, (c.props.get "fontSize").numberAtLeast 14 12 = .ok points ∧
    c.fontSize points = .ok b.size
  bold : (c.props.get "fontWeight").isWeight ["bold", "600", "700"] = .ok b.bold

theorem readFrom_of_ofComponent {b : Button} (h : ofComponent c = .ok b) : ReadFrom c b := by
  obtain ⟨points, hpoints, h⟩ := exists_of_bind_eq_ok h
  obtain ⟨bold, hbold, h⟩ := exists_of_bind_eq_ok h
  obtain ⟨radius, hradius, h⟩ := exists_of_bind_eq_ok h
  obtain ⟨borderWidth, hborderWidth, h⟩ := exists_of_bind_eq_ok h
  obtain ⟨padding, hpadding, h⟩ := exists_of_bind_eq_ok h
  obtain ⟨size, hsize, h⟩ := exists_of_bind_eq_ok h
  obtain rfl := Except.ok.inj h
  exact ⟨rfl, rfl, rfl, rfl, hborderWidth, hradius, hpadding, ⟨points, hpoints, hsize⟩, hbold⟩

end Button

/-- The fixed size that the body of a card and the caption of a box are read with. -/
def Fields.IsFixedSize (props : Fields) (size : FontSize) : Prop :=
  ∃ points, (props.get "fontSize").numberAtLeast 14 12 = .ok points ∧ size = .fixed points

namespace Card

theorem readFrom_of_titleOf {title : Option Caption} (h : titleOf c = .ok title) :
    Caption.ReadFrom (Json.firstPresent? [c.props.get "title"])
      (fun size => ∃ points, (c.props.get "titleSize").numberAtLeast 18 12 = .ok points ∧
        c.fontSize points = .ok size)
      (c.props.color ["titleColor"] "#111827") title := by
  unfold titleOf at h
  split at h
  · next hgiven =>
    obtain rfl := Except.ok.inj h
    exact .missing hgiven
  · next value hgiven =>
    obtain ⟨points, hpoints, h⟩ := exists_of_bind_eq_ok h
    obtain ⟨size, hsize, h⟩ := exists_of_bind_eq_ok h
    obtain rfl := Except.ok.inj h
    exact .shown hgiven ⟨points, hpoints, hsize⟩

theorem readFrom_of_bodyOf {body : Option Caption} (h : bodyOf props = .ok body) :
    Caption.ReadFrom
      (Json.firstPresent? [props.get "text", props.get "content", props.get "description"])
      props.IsFixedSize (props.color ["textColor", "color"] "#4b5563") body := by
  unfold bodyOf at h
  split at h
  · next hgiven =>
    obtain rfl := Except.ok.inj h
    exact .missing hgiven
  · next value hgiven =>
    obtain ⟨points, hpoints, h⟩ := exists_of_bind_eq_ok h
    obtain rfl := Except.ok.inj h
    exact .shown hgiven ⟨points, hpoints, rfl⟩

/-- A card as it is read. -/
structure ReadFrom (c : Component) (content : Card) : Prop where
  background : content.background = c.props.color ["backgroundColor"] "#ffffff"
  elevation : (c.props.get "elevation").numberAtLeast 2 0 = .ok content.elevation
  radius : (c.props.get "borderRadius").numberOr 8 = .ok content.radius
  padding : (c.props.get "padding").numberAtLeast 16 0 = .ok content.padding
  title : titleOf c = .ok content.title
  body : bodyOf c.props = .ok content.body

theorem readFrom_of_ofComponent {content : Card} (h : ofComponent c = .ok content) :
    ReadFrom c content := by
  obtain ⟨elevation, helevation, h⟩ := exists_of_bind_eq_ok h
  obtain ⟨radius, hradius, h⟩ := exists_of_bind_eq_ok h
  obtain ⟨padding, hpadding, h⟩ := exists_of_bind_eq_ok h
  obtain ⟨title, htitle, h⟩ := exists_of_bind_eq_ok h
  obtain ⟨body, hbody, h⟩ := exists_of_bind_eq_ok h
  obtain rfl := Except.ok.inj h
  exact ⟨rfl, helevation, hradius, hpadding, htitle, hbody⟩

end Card

namespace IconMark

/-- An icon as it is read. -/
structure ReadFrom (c : Component) (content : IconMark) : Prop where
  glyph : content.glyph = Icon.glyphOf (Json.firstPresent [c.props.get "name"] (.string "star"))
  size : (c.props.get "size").numberAtLeast 24 16 = .ok content.size
  color : content.color = c.props.color ["color"] "#6b7280"

theorem readFrom_of_ofComponent {content : IconMark} (h : ofComponent c = .ok content) :
    ReadFrom c content := by
  obtain ⟨size, hsize, h⟩ := exists_of_bind_eq_ok h
  obtain rfl := Except.ok.inj h
  exact ⟨rfl, hsize, rfl⟩

end IconMark

namespace Box

theorem readFrom_of_captionOf {caption : Option Caption} (h : captionOf props = .ok caption) :
    Caption.ReadFrom (Json.firstPresent? [props.get "text"]) props.IsFixedSize
      (props.color ["textColor"] "#000000") caption := by
  unfold captionOf at h
  split at h
  · next hgiven =>
    obtain rfl := Except.ok.inj h
    exact .missing hgiven
  · next value hgiven =>
    obtain ⟨points, hpoints, h⟩ := exists_of_bind_eq_ok h
    obtain rfl := Except.ok.inj h
    exact .shown hgiven ⟨points, hpoints, rfl⟩

/-- A box as it is read. -/
structure ReadFrom (c : Component) (content : Box) : Prop where
  background : content.background = c.props.color ["backgroundColor"] "#F5F5F5"
  radius : (c.props.get "borderRadius").numberOr 8 = .ok content.radius
  caption : captionOf c.props = .ok content.caption

theorem readFrom_of_ofComponent {content : Box} (h : ofComponent c = .ok content) :
    ReadFrom c content := by
  obtain ⟨radius, hradius, h⟩ := exists_of_bind_eq_ok h
  obtain ⟨caption, hcaption, h⟩ := exists_of_bind_eq_ok h
  obtain rfl := Except.ok.inj h
  exact ⟨rfl, hradius, hcaption⟩

end Box

/-- The numbers of an app bar, as they are read. -/
theorem Header.titleSize_and_height_of_ofComponent {appName : Json} {bar : Header}
    (h : ofComponent appName c = .ok bar) :
    titleSizeOf c = .ok bar.titleSize ∧
      (c.props.get "height").numberAtLeast 64 44 = .ok bar.height := by
  obtain ⟨size, hsize, h⟩ := exists_of_bind_eq_ok h
  obtain ⟨height, hheight, h⟩ := exists_of_bind_eq_ok h
  obtain rfl := Except.ok.inj h
  exact ⟨hsize, hheight⟩

end Readers

end Maquette
