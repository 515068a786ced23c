import Maquette.Emission
import Maquette.Proofs.Property.Readable

/-!
# Widgets that can be read

For every type of component, the values that its widget reads as numbers. A
widget is read exactly when all of them are readable and, for a heading, when its
level is no infinite number and no not-a-number. A value that is not looked at
does not count: the size of a title that is missing, or the insets of the sides
when uniform ones are given.
-/

namespace Maquette

theorem Component.isOk_fontSize (c : Component) (points : Binary64) :
    (c.fontSize points).isOk = (c.responsive.get "fontPercent").isReadable := by
  rw [fontSize, isOk_bind (c.isOk_fraction? "fontPercent") (fun fraction => ?_), Bool.and_true]
  cases fraction <;> rfl

namespace Label

/-- The values that a text reads as numbers. -/
def values (c : Component) : List Json :=
  [c.props.get "fontSize", c.props.get "fontWeight", c.responsive.get "fontPercent"]

theorem isOk_ofComponent (c : Component) :
    (ofComponent c).isOk = (values c).all Json.isReadable := by
  rw [ofComponent]
  exact isOk_bind (Json.isOk_numberAtLeast _ _ _) fun points =>
    isOk_bind (Json.isOk_isWeight _ _) fun bold =>
    isOk_bind (c.isOk_fontSize points) fun size => isOk_pure _

end Label

namespace Heading

/-- The level can be read: it is no infinite number and no not-a-number. -/
def isLevel : Json → Bool
  | .number x => x.isFinite
  | _ => true

theorem isOk_levelName (value : Json) : (levelName value).isOk = isLevel value := by
  cases value with
  | number x => cases x <;> rfl
  | _ => rfl

theorem isLevel_firstPresent (value : Json) (text : String) :
    isLevel (Json.firstPresent [value] (.string text)) = isLevel value := by
  cases value with
  | string other =>
    by_cases h : other = ""
    · simp [Json.firstPresent, Json.firstPresent?, Json.isPresent, isLevel, h]
    · simp [Json.firstPresent, Json.firstPresent?, Json.isPresent, isLevel, h]
  | _ => rfl

/-- The values that a heading reads as numbers, its level apart. -/
def values (c : Component) : List Json :=
  [c.responsive.get "fontPercent"]

theorem isOk_ofComponent (c : Component) :
    (ofComponent c).isOk = (isLevel (c.props.get "level") && (values c).all Json.isReadable) := by
  rw [ofComponent, ← isLevel_firstPresent _ "h1"]
  exact isOk_bind (isOk_levelName _) fun level =>
    isOk_bind (c.isOk_fontSize (levelSize level)) fun size => isOk_pure _

end Heading

namespace Button

theorem isOk_amount (value : Json) (default : Binary64) :
    (amount value default).isOk = value.isReadable := by
  cases value with
  | null => rfl
  | _ => exact Json.isOk_numberAtLeast _ _ _

/-- The values that the insets of a button are read from. -/
def paddingValues (props : Fields) : List Json :=
  if (props.get "padding").isNull then
    [props.get "paddingHorizontal", props.get "paddingVertical"]
  else [props.get "padding"]

theorem isOk_paddingOf (props : Fields) :
    (paddingOf props).isOk = (paddingValues props).all Json.isReadable := by
  unfold paddingOf paddingValues
  by_cases h : (props.get "padding").isNull = true
  · rw [if_pos h, if_pos h]
    exact isOk_bind (isOk_amount _ _) fun horizontal =>
      isOk_bind (isOk_amount _ _) fun vertical => isOk_pure _
  · rw [if_neg h, if_neg h]
    exact isOk_bind (isOk_amount _ _) fun amount => isOk_pure _

/-- The values that a button reads as numbers. -/
def values (c : Component) : List Json :=
  [c.props.get "fontSize", c.props.get "fontWeight", c.props.get "borderRadius",
    c.props.get "borderWidth"] ++ paddingValues c.props ++ [c.responsive.get "fontPercent"]

theorem isOk_ofComponent (c : Component) :
    (ofComponent c).isOk = (values c).all Json.isReadable := by
  rw [ofComponent]
  calc _ = _ := isOk_bind (Json.isOk_numberAtLeast _ _ _) fun points =>
        isOk_bind (Json.isOk_isWeight _ _) fun bold =>
        isOk_bind (Json.isOk_numberOr _ _) fun radius =>
        isOk_bind (Json.isOk_numberOr _ _) fun borderWidth =>
        isOk_bind (isOk_paddingOf _) fun padding =>
        isOk_bind (c.isOk_fontSize points) fun size => isOk_pure _
    _ = (values c).all Json.isReadable := by simp [values]

end Button

namespace Card

/-- The values that the title of a card reads as numbers. -/
def titleValues (c : Component) : List Json :=
  if (c.props.get "title").isPresent then
    [c.props.get "titleSize", c.responsive.get "fontPercent"]
  else []

theorem isOk_titleOf (c : Component) :
    (titleOf c).isOk = (titleValues c).all Json.isReadable := by
  unfold titleOf titleValues
  by_cases h : (c.props.get "title").isPresent = true
  · rw [if_pos h]
    simp only [Json.firstPresent?, List.find?_cons_of_pos h]
    exact isOk_bind (Json.isOk_numberAtLeast _ _ _) fun points =>
      isOk_bind (c.isOk_fontSize points) fun size => isOk_pure _
  · rw [if_neg h]
    simp only [Json.firstPresent?, List.find?_cons_of_neg h]
    rfl

/-- The values that the body of a card reads as numbers. -/
def bodyValues (props : Fields) : List Json :=
  match Json.firstPresent? [props.get "text", props.get "content", props.get "description"] with
  | none => []
  | some _ => [props.get "fontSize"]

theorem isOk_bodyOf (props : Fields) :
    (bodyOf props).isOk = (bodyValues props).all Json.isReadable := by
  unfold bodyOf bodyValues
  cases Json.firstPresent? [props.get "text", props.get "content", props.get "description"] with
  | none => rfl
  | some body => exact isOk_bind (Json.isOk_numberAtLeast _ _ _) fun points => isOk_pure _

/-- The values that a card reads as numbers. -/
def values (c : Component) : List Json :=
  [c.props.get "elevation", c.props.get "borderRadius", c.props.get "padding"] ++
    titleValues c ++ bodyValues c.props

theorem isOk_ofComponent (c : Component) :
    (ofComponent c).isOk = (values c).all Json.isReadable := by
  rw [ofComponent]
  calc _ = _ := isOk_bind (Json.isOk_numberAtLeast _ _ _) fun elevation =>
        isOk_bind (Json.isOk_numberOr _ _) fun radius =>
        isOk_bind (Json.isOk_numberAtLeast _ _ _) fun padding =>
        isOk_bind (isOk_titleOf c) fun title =>
        isOk_bind (isOk_bodyOf c.props) fun body => isOk_pure _
    _ = (values c).all Json.isReadable := by simp [values]

end Card

namespace IconMark

/-- The values that an icon reads as numbers. -/
def values (c : Component) : List Json := [c.props.get "size"]

theorem isOk_ofComponent (c : Component) :
    (ofComponent c).isOk = (values c).all Json.isReadable := by
  rw [ofComponent]
  exact isOk_bind (Json.isOk_numberAtLeast _ _ _) fun size => isOk_pure _

end IconMark

namespace Picture

/-- The values that a picture reads as numbers. -/
def values (c : Component) : List Json := [c.props.get "borderRadius"]

theorem isOk_ofComponent (c : Component) :
    (ofComponent c).isOk = (values c).all Json.isReadable := by
  rw [ofComponent]
  refine isOk_bind (Json.isOk_numberOr _ _) fun radius => ?_
  cases sourceOf (c.props.get "src") <;> rfl

end Picture

namespace Box

/-- The values that the caption of a box reads as numbers. -/
def captionValues (props : Fields) : List Json :=
  if (props.get "text").isPresent then [props.get "fontSize"] else []

theorem isOk_captionOf (props : Fields) :
    (captionOf props).isOk = (captionValues props).all Json.isReadable := by
  unfold captionOf captionValues
  by_cases h : (props.get "text").isPresent = true
  · rw [if_pos h]
    simp only [Json.firstPresent?, List.find?_cons_of_pos h]
    exact isOk_bind (Json.isOk_numberAtLeast _ _ _) fun points => isOk_pure _
  · rw [if_neg h]
    simp only [Json.firstPresent?, List.find?_cons_of_neg h]
    rfl

/-- The values that a box reads as numbers. -/
def values (c : Component) : List Json :=
  c.props.get "borderRadius" :: captionValues c.props

theorem isOk_ofComponent (c : Component) :
    (ofComponent c).isOk = (values c).all Json.isReadable := by
  rw [ofComponent]
  calc _ = _ := isOk_bind (Json.isOk_numberOr _ _) fun radius =>
        isOk_bind (isOk_captionOf c.props) fun caption => isOk_pure _
    _ = (values c).all Json.isReadable := by simp [values]

end Box

end Maquette
