import Maquette.Color
import Maquette.Component
import Maquette.Style

/-!
# Widgets

What a component shows, once its loosely typed properties have been read: every
field here has the type it has in the generated app, and every default and floor
has been applied. How a widget is written in code is a separate matter, in
`Maquette.Widget.Code`, so a statement about sizes or colours is a statement
about these structures.

Reading a widget fails only for a number that no double can hold, or for a
heading whose level is a number but no integer can be made of it.
-/

namespace Maquette

/-- A text with its size and colour. -/
structure Caption where
  text : String
  size : FontSize
  color : Color

/-- A line or paragraph of text. -/
structure Label where
  caption : Caption
  align : TextAlign
  bold : Bool
  italic : Bool

/-- A heading. -/
structure Heading where
  caption : Caption
  bold : Bool

/-- A button. -/
structure Button where
  text : String
  background : Color
  foreground : Color
  border : Color
  borderWidth : Binary64
  radius : Binary64
  padding : Insets
  size : FontSize
  bold : Bool

/-- A card with a title and a body, either of which may be missing. -/
structure Card where
  background : Color
  elevation : Binary64
  radius : Binary64
  padding : Binary64
  title : Option Caption
  body : Option Caption

/-- An icon. -/
structure IconMark where
  glyph : String
  size : Binary64
  color : Color

/-- A picture, or the place of one without a source. -/
inductive Picture
  | missing (radius : Binary64)
  | network (source : String) (fit : BoxFit) (radius : Binary64)

/-- A coloured box that may have a caption in its centre. -/
structure Box where
  background : Color
  radius : Binary64
  caption : Option Caption

/-- What a component shows. -/
inductive Widget
  | label (content : Label)
  | heading (content : Heading)
  | button (content : Button)
  | card (content : Card)
  | icon (content : IconMark)
  | picture (content : Picture)
  | box (content : Box)
  | placeholder (text : String)

/-- The font size of a component: the fraction of the width that it defines, or
else a fixed size. -/
def Component.fontSize (c : Component) (points : Binary64) : Except NumberError FontSize := do
  match ← c.fraction? "fontPercent" with
  | some fraction => return .ofWidth fraction
  | none => return .fixed points

/-- The colour that the first given of several properties names, or a default. -/
def Fields.color (props : Fields) (names : List String) (default : String) : Color :=
  .ofValue (Json.firstPresent (names.map props.get) (.string default))

namespace Label

/-- The text that a component shows. -/
def ofComponent (c : Component) : Except NumberError Label := do
  let props := c.props
  let points ← (props.get "fontSize").numberAtLeast 16 12
  let bold ← (props.get "fontWeight").isWeight ["bold", "700"]
  let size ← c.fontSize points
  return {
    caption := {
      text := (Json.firstPresent [props.get "text"] (.string "Sample Text")).display
      size
      color := props.color ["color"] "#000000" }
    align := .ofValue (props.get "textAlign")
    bold
    italic := (props.get "fontStyle").isString "italic" }

end Label

namespace Heading

def levelSizes : List (String × Binary64) := [
  ("h1", 32),
  ("h2", 28),
  ("h3", 24),
  ("h4", 20),
  ("h5", 18),
  ("h6", 16)]

def unknownSize : Binary64 := 24

def wholeLevel : Binary64 → Except NumberError Int
  | .finite s m => .ok (Binary64.integerPart s m)
  | .infinite _ => .error .infiniteInteger
  | .nan => .error .notANumberInteger

def levelName : Json → Except NumberError String
  | .integer n => .ok ("h" ++ integerText n)
  | .number x => (wholeLevel x).map fun n => "h" ++ integerText n
  | value => .ok value.display

def levelSize (name : String) : Binary64 :=
  (levelSizes.lookup (Text.key name)).getD unknownSize

def ofComponent (c : Component) : Except NumberError Heading := do
  let props := c.props
  let level ← levelName (Json.firstPresent [props.get "level"] (.string "h1"))
  let size ← c.fontSize (levelSize level)
  return {
    caption := {
      text := (Json.firstPresent [props.get "text"] (.string "Heading")).display
      size
      color := props.color ["color"] "#1f2937" }
    bold := (props.get "fontWeight").isString "bold" }

end Heading

namespace Button

/-- An amount that is given, negative ones counting as zero, or a default. -/
def amount (value : Json) (default : Binary64) : Except NumberError Binary64 :=
  if value.isNull then .ok default else value.numberAtLeast 0 0

/-- The insets of a button: uniform if one amount is given for all sides. -/
def paddingOf (props : Fields) : Except NumberError Insets := do
  if (props.get "padding").isNull then
    return .symmetric (← amount (props.get "paddingHorizontal") 16)
      (← amount (props.get "paddingVertical") 12)
  else
    return .all (← amount (props.get "padding") 0)

def ofComponent (c : Component) : Except NumberError Button := do
  let props := c.props
  let background := Json.firstPresent [props.get "backgroundColor"] (.string "#3b82f6")
  let points ← (props.get "fontSize").numberAtLeast 14 12
  let bold ← (props.get "fontWeight").isWeight ["bold", "600", "700"]
  let radius ← (props.get "borderRadius").numberOr 8
  let borderWidth ← (props.get "borderWidth").numberOr 0
  let padding ← paddingOf props
  let size ← c.fontSize points
  return {
    text := (Json.firstPresent [props.get "text"] (.string "Button")).display
    background := .ofValue background
    foreground := props.color ["color", "textColor"] "#ffffff"
    border := .ofValue (Json.firstPresent [props.get "borderColor"] background)
    borderWidth
    radius
    padding
    size
    bold }

end Button

namespace Card

def titleOf (c : Component) : Except NumberError (Option Caption) :=
  match Json.firstPresent? [c.props.get "title"] with
  | none => .ok none
  | some title => do
    let points ← (c.props.get "titleSize").numberAtLeast 18 12
    let size ← c.fontSize points
    return some {
      text := title.display
      size
      color := c.props.color ["titleColor"] "#111827" }

/-- The body of a card. Its size is fixed. -/
def bodyOf (props : Fields) : Except NumberError (Option Caption) :=
  match Json.firstPresent? [props.get "text", props.get "content", props.get "description"] with
  | none => .ok none
  | some body => do
    let points ← (props.get "fontSize").numberAtLeast 14 12
    return some {
      text := body.display
      size := .fixed points
      color := props.color ["textColor", "color"] "#4b5563" }

def ofComponent (c : Component) : Except NumberError Card := do
  let props := c.props
  let elevation ← (props.get "elevation").numberAtLeast 2 0
  let radius ← (props.get "borderRadius").numberOr 8
  let padding ← (props.get "padding").numberAtLeast 16 0
  let title ← titleOf c
  let body ← bodyOf props
  return {
    background := props.color ["backgroundColor"] "#ffffff"
    elevation
    radius
    padding
    title
    body }

end Card

namespace IconMark

def ofComponent (c : Component) : Except NumberError IconMark := do
  let props := c.props
  let size ← (props.get "size").numberAtLeast 24 16
  return {
    glyph := Icon.glyphOf (Json.firstPresent [props.get "name"] (.string "star"))
    size
    color := props.color ["color"] "#6b7280" }

end IconMark

namespace Picture

/-- The source of a picture: a text, without the white space around it. -/
def sourceOf : Json → List Char
  | .string source => Text.trim source.toList
  | _ => []

def ofComponent (c : Component) : Except NumberError Picture := do
  let props := c.props
  let radius ← (props.get "borderRadius").numberOr 8
  match sourceOf (props.get "src") with
  | [] => return .missing radius
  | source =>
    return .network (String.ofList source)
      (.ofValue (Json.firstPresent [props.get "objectFit"] (.string "cover"))) radius

end Picture

namespace Box

/-- The caption of a box. Its size is fixed. -/
def captionOf (props : Fields) : Except NumberError (Option Caption) :=
  match Json.firstPresent? [props.get "text"] with
  | none => .ok none
  | some text => do
    let points ← (props.get "fontSize").numberAtLeast 14 12
    return some {
      text := text.display
      size := .fixed points
      color := props.color ["textColor"] "#000000" }

def ofComponent (c : Component) : Except NumberError Box := do
  let props := c.props
  let radius ← (props.get "borderRadius").numberOr 8
  let caption ← captionOf props
  return {
    background := props.color ["backgroundColor"] "#F5F5F5"
    radius
    caption }

end Box

namespace Widget

/-- What a component without a known type shows: the name of its type. -/
def placeholderOf (c : Component) : Widget :=
  .placeholder (if c.type = "" then "Unknown" else c.type)

end Widget

end Maquette
