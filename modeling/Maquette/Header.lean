import Maquette.Component
import Maquette.Color
import Maquette.Style

/-!
# Headers

The first header component of a screen supplies the app bar; the others are
dropped. Every component that is no header keeps its place on the stack.
-/

namespace Maquette

def defaultAppName : String := "Generated App"

/-- The fields of the app bar. Colours are still the texts they were saved as,
because a screen whose background is saved as the same text gets another one. -/
structure Header where
  title : String
  backgroundColor : String
  titleColor : String
  height : Binary64
  titleSize : FontSize
  showsBack : Bool
  showsMenu : Bool

namespace Header

/-- The size of the title: a fraction of the width if one is defined, else the
title size, else the font size, never below twelve points. -/
def titleSizeOf (c : Component) : Except NumberError FontSize := do
  match ← c.fraction? "titleFontPercent" with
  | some fraction => return .ofWidth fraction
  | none =>
    match ← (c.props.get "titleSize").number? with
    | some points => return .fixed (points.max 12)
    | none => return .fixed ((← (c.props.get "fontSize").numberOr 18).max 12)

def ofComponent (appName : Json) (c : Component) : Except NumberError Header := do
  let titleSize ← titleSizeOf c
  let height ← (c.props.get "height").numberAtLeast 64 44
  return {
    title :=
      (Json.firstPresent [c.props.get "appTitle", appName] (.string defaultAppName)).display
    backgroundColor :=
      (Json.firstPresent [c.props.get "backgroundColor"] (.string "#3b82f6")).display
    titleColor := (Json.firstPresent [c.props.get "titleColor"] (.string "#ffffff")).display
    height
    titleSize
    showsBack := (c.props.get "showBackButton").flag
    showsMenu := (c.props.get "showMenuButton").flag }

/-- The colour of the app bar. -/
def background (h : Header) : Color :=
  .ofText h.backgroundColor.toList

def foreground (h : Header) : Color :=
  .ofText h.titleColor.toList

end Header

/-- The components of a screen, parted into its header components and the others
that are placed on it. -/
structure Arrangement where
  headers : List Component
  placed : List Component

namespace Arrangement

def ofComponents (components : List Component) : Arrangement where
  headers := components.filter Component.isHeader
  placed := components.filter (!·.isHeader)

/-- The app bar of an arrangement, if it has a header component. -/
def header? (appName : Json) (a : Arrangement) : Except NumberError (Option Header) :=
  match a.headers with
  | [] => .ok none
  | first :: _ => (Header.ofComponent appName first).map some

theorem length_headers_add_length_placed (components : List Component) :
    (ofComponents components).headers.length + (ofComponents components).placed.length =
      components.length := by
  simp only [ofComponents]
  induction components with
  | nil => rfl
  | cons c rest ih => cases h : c.isHeader <;> simp [h] <;> omega

end Arrangement

end Maquette
