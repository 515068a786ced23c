import Maquette.Property

/-!
# Styles

The values that widgets are styled with, as the types they are in the generated
app: icons, the way a picture fills its box, text alignment, insets, and sizes
of type. Each is read from a loosely typed property, with a default for what it
does not know, and each has its code.
-/

namespace Maquette

namespace Icon

/-- The icons of the builder and those of the generated app. -/
def glyphs : List (String × String) := [
  ("user", "Icons.person"),
  ("person", "Icons.person"),
  ("home", "Icons.home"),
  ("settings", "Icons.settings"),
  ("search", "Icons.search"),
  ("menu", "Icons.menu"),
  ("star", "Icons.star"),
  ("heart", "Icons.favorite"),
  ("plus", "Icons.add"),
  ("add", "Icons.add"),
  ("minus", "Icons.remove"),
  ("remove", "Icons.remove"),
  ("check", "Icons.check"),
  ("close", "Icons.close"),
  ("x", "Icons.close")]

def unknownGlyph : String := "Icons.star"

/-- The icon that a value names. -/
def glyphOf : Json → String
  | .string name => (glyphs.lookup (Text.key name)).getD unknownGlyph
  | _ => unknownGlyph

end Icon

/-- How a picture fills its box. -/
inductive BoxFit
  | contain
  | fill
  | cover
deriving DecidableEq

namespace BoxFit

/-- The fit that a value names; covering the box is the default. -/
def ofValue (value : Json) : BoxFit :=
  let name := value.displayKey
  if name = "contain" then contain else if name = "fill" then fill else cover

def code : BoxFit → String
  | contain => "BoxFit.contain"
  | fill => "BoxFit.fill"
  | cover => "BoxFit.cover"

end BoxFit

/-- How the lines of a text are aligned. -/
inductive TextAlign
  | left
  | center
  | right
deriving DecidableEq

namespace TextAlign

/-- The alignment that a value names; left is the default. -/
def ofValue (value : Json) : TextAlign :=
  let name := value.displayKey
  if name = "center" then center else if name = "right" then right else left

def code : TextAlign → String
  | left => "TextAlign.left"
  | center => "TextAlign.center"
  | right => "TextAlign.right"

end TextAlign

/-- The space between the edge of a widget and what is in it. -/
inductive Insets
  | all (amount : Binary64)
  | symmetric (horizontal vertical : Binary64)

namespace Insets

def code : Insets → String
  | all amount => "EdgeInsets.all(" ++ amount.literal ++ ")"
  | symmetric horizontal vertical =>
    "EdgeInsets.symmetric(horizontal: " ++ horizontal.literal ++ ", vertical: " ++
      vertical.literal ++ ")"

end Insets

/-- A size of type: so many points, or a fraction of the width of the device. -/
inductive FontSize
  | fixed (points : Binary64)
  | ofWidth (fraction : Binary64)

namespace FontSize

def widthCode (fraction : Binary64) : String :=
  "MediaQuery.of(context).size.width * " ++ fraction.literal

def code : FontSize → String
  | fixed points => points.literal
  | ofWidth fraction => widthCode fraction

end FontSize

def cornerCode (radius : Binary64) : String :=
  "BorderRadius.circular(" ++ radius.literal ++ ")"

end Maquette
