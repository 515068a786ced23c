import Maquette.Proofs.Emission.Widget
import Maquette.Proofs.Widget.Displayed
import Maquette.Proofs.Widget.Read

/-!
# The texts that a component shows

What every type of component displays, as it was saved: the values themselves and
not what they are turned into on the way to a widget. Where a widget can be read, its
texts are these.
-/

namespace Maquette

namespace Component

/-- The texts that a component shows, in order. -/
def shownTexts (c : Component) : List String :=
  let title := Json.firstPresent? [c.props.get "title"]
  let body := Json.firstPresent?
    [c.props.get "text", c.props.get "content", c.props.get "description"]
  let caption := Json.firstPresent? [c.props.get "text"]
  match c.typeKey with
  | "text" => [(caption.getD (.string "Sample Text")).display]
  | "heading" => [(caption.getD (.string "Heading")).display]
  | "button" => [(caption.getD (.string "Button")).display]
  | "card" => (title.toList ++ body.toList).map Json.display
  | "icon" => []
  | "image" =>
    match Picture.sourceOf (c.props.get "src") with
    | [] => []
    | source => [String.ofList source, "Image not available"]
  | "container" => caption.toList.map Json.display
  | _ => [if c.type = "" then "Unknown" else c.type]

/-- How far the texts of a component are moved inside of its own code. -/
def depth (c : Component) : Nat :=
  if c.typeKey = "card" then 8 else 0

end Component

namespace Widget

variable {c : Component}

theorem texts_card {content : Card} (h : Card.ofComponent c = .ok content) :
    (card content).texts = ((Json.firstPresent? [c.props.get "title"]).toList ++
      (Json.firstPresent? [c.props.get "text", c.props.get "content",
        c.props.get "description"]).toList).map Json.display := by
  have hread := Card.readFrom_of_ofComponent h
  rw [texts, List.map_append, List.map_append, ← Option.toList_map, ← Option.toList_map,
    ← Option.toList_map, ← Option.toList_map, (Card.readFrom_of_titleOf hread.title).map_text,
    (Card.readFrom_of_bodyOf hread.body).map_text]

theorem texts_picture {content : Picture} (h : Picture.ofComponent c = .ok content) :
    (picture content).texts =
      match Picture.sourceOf (c.props.get "src") with
      | [] => []
      | source => [String.ofList source, "Image not available"] := by
  obtain ⟨radius, -, h⟩ := exists_of_bind_eq_ok h
  cases hsource : Picture.sourceOf (c.props.get "src") with
  | nil =>
    rw [hsource] at h
    obtain rfl := Except.ok.inj h
    rfl
  | cons first rest =>
    rw [hsource] at h
    obtain rfl := Except.ok.inj h
    rfl

theorem texts_box {content : Box} (h : Box.ofComponent c = .ok content) :
    (box content).texts = (Json.firstPresent? [c.props.get "text"]).toList.map Json.display := by
  have hread := Box.readFrom_of_ofComponent h
  rw [texts, ← Option.toList_map, ← Option.toList_map,
    (Box.readFrom_of_captionOf hread.caption).map_text]

theorem texts_eq_and_depth_eq {w : Widget} (h : ofComponent c = .ok w) :
    w.texts = c.shownTexts ∧ w.depth = c.depth := by
  unfold ofComponent at h
  unfold Component.shownTexts Component.depth
  generalize c.typeKey = key at h ⊢
  split at h
  · obtain ⟨content, hcontent, rfl⟩ := exists_of_map_eq_ok h
    exact ⟨congrArg (fun text => [text]) (Label.readFrom_of_ofComponent hcontent).text, rfl⟩
  · obtain ⟨content, hcontent, rfl⟩ := exists_of_map_eq_ok h
    exact ⟨congrArg (fun text => [text]) (Heading.readFrom_of_ofComponent hcontent).text, rfl⟩
  · obtain ⟨content, hcontent, rfl⟩ := exists_of_map_eq_ok h
    exact ⟨congrArg (fun text => [text]) (Button.readFrom_of_ofComponent hcontent).text, rfl⟩
  · obtain ⟨content, hcontent, rfl⟩ := exists_of_map_eq_ok h
    exact ⟨texts_card hcontent, rfl⟩
  · obtain ⟨content, -, rfl⟩ := exists_of_map_eq_ok h
    exact ⟨rfl, rfl⟩
  · obtain ⟨content, hcontent, rfl⟩ := exists_of_map_eq_ok h
    exact ⟨texts_picture hcontent, rfl⟩
  · obtain ⟨content, hcontent, rfl⟩ := exists_of_map_eq_ok h
    exact ⟨texts_box hcontent, rfl⟩
  · next hcard _ _ _ =>
    obtain rfl := Except.ok.inj h
    refine ⟨?_, (if_neg hcard).symm⟩
    simp [placeholderOf, texts]

end Widget

end Maquette
