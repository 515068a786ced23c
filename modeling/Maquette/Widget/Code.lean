import Maquette.Dart.Code
import Maquette.Widget.Basic

/-!
# The code of widgets

Every widget as an expression. The fields were read and defaulted before, so
these functions only name arguments and put them in order. A font size and a
colour are code without line breaks, a displayed text is a literal, and all else
is constant.

The two texts of a card are built as expressions of their own and moved to their
place as finished text.
-/

namespace Maquette

open Dart (Expr Argument Statement)

namespace Caption

def sizeAndColor (c : Caption) : List Argument :=
  [.named "fontSize" (.code c.size.code), .named "color" (.code c.color.code)]

end Caption

def weightCode (bold : Bool) (otherwise : String) : String :=
  if bold then "FontWeight.bold" else otherwise

namespace Label

/-- The expression of a text. -/
def expr (l : Label) : Expr :=
  .call "Text" [
    .positional (.text l.caption.text),
    .named "textAlign" (.code l.align.code),
    .named "style" (.call "TextStyle" (l.caption.sizeAndColor ++ [
      .named "fontWeight" (.code (weightCode l.bold "FontWeight.normal")),
      .named "fontStyle" (.code (if l.italic then "FontStyle.italic" else "FontStyle.normal"))]))]

end Label

namespace Heading

def expr (h : Heading) : Expr :=
  .call "Text" [
    .positional (.text h.caption.text),
    .named "style" (.call "TextStyle" (h.caption.sizeAndColor ++ [
      .named "fontWeight" (.code (weightCode h.bold "FontWeight.w600"))]))]

end Heading

namespace Button

def expr (b : Button) : Expr :=
  .call "ElevatedButton" [
    .named "onPressed" (.closure "()" [.line "// Add button action here"]),
    .named "style" (.call "ElevatedButton.styleFrom" [
      .named "backgroundColor" (.code b.background.code),
      .named "foregroundColor" (.code b.foreground.code),
      .named "side" (.call "BorderSide" [
        .named "color" (.code b.border.code),
        .named "width" (.code b.borderWidth.literal)]),
      .named "shape" (.call "RoundedRectangleBorder" [
        .named "borderRadius" (.code (cornerCode b.radius))]),
      .named "padding" (.code b.padding.code)]),
    .named "child" (.call "Text" [
      .positional (.text b.text),
      .named "style" (.call "TextStyle" [
        .named "fontSize" (.code b.size.code),
        .named "fontWeight" (.code (weightCode b.bold "FontWeight.normal"))])])]

end Button

namespace Card

def titleExpr (c : Caption) : Expr :=
  .call "Text" [
    .positional (.text c.text),
    .named "style" (.call "TextStyle" (c.sizeAndColor ++ [
      .named "fontWeight" (.code "FontWeight.w600")]))]

def bodyExpr (c : Caption) : Expr :=
  .call "Text" [
    .positional (.text c.text),
    .named "style" (.call "TextStyle" c.sizeAndColor)]

/-- The texts of a card, with some space between the two. -/
def texts (c : Card) : List Expr :=
  match c.title, c.body with
  | none, none => []
  | some title, none => [titleExpr title]
  | none, some body => [bodyExpr body]
  | some title, some body => [titleExpr title, .code "SizedBox(height: 8)", bodyExpr body]

/-- The argument that holds the texts of a card, if it has any. -/
def child (c : Card) : List Argument :=
  match c.texts with
  | [] => []
  | texts => [
    .named "child" (.call "Padding" [
      .named "padding" (.code ("EdgeInsets.all(" ++ c.padding.literal ++ ")")),
      .named "child" (.call "Column" [
        .named "crossAxisAlignment" (.code "CrossAxisAlignment.start"),
        .named "mainAxisSize" (.code "MainAxisSize.min"),
        .named "children" (.list (texts.map .moved))])])]

def expr (c : Card) : Expr :=
  .call "Card" ([
    .named "color" (.code c.background.code),
    .named "elevation" (.code c.elevation.literal),
    .named "margin" (.code "EdgeInsets.zero"),
    .named "shape" (.call "RoundedRectangleBorder" [
      .named "borderRadius" (.code (cornerCode c.radius))])] ++ c.child)

end Card

namespace IconMark

def expr (i : IconMark) : Expr :=
  .call "Icon" [
    .positional (.code i.glyph),
    .named "size" (.code i.size.literal),
    .named "color" (.code i.color.code)]

end IconMark

namespace Picture

/-- A grey box with rounded corners around something. -/
def greyBox (radius : Binary64) (child : Expr) : Expr :=
  .call "Container" [
    .named "decoration" (.call "BoxDecoration" [
      .named "color" (.code "Colors.grey[300]"),
      .named "borderRadius" (.code (cornerCode radius))]),
    .named "child" child]

/-- The icon that stands for a picture that cannot be shown. -/
def brokenImage : Expr :=
  .call "Icon" [
    .positional (.code "Icons.broken_image"),
    .named "size" (.code "32"),
    .named "color" (.code "Colors.grey[600]")]

/-- What is shown while a picture is on its way. -/
def progress : Expr :=
  .call "Center" [
    .named "child" (.call "CircularProgressIndicator" [
      .named "value" (.broken "loadingProgress.expectedTotalBytes != null" [
        (4, "? loadingProgress.cumulativeBytesLoaded /"),
        (8, "loadingProgress.expectedTotalBytes!"),
        (4, ": null")])])]

/-- What is shown when a picture does not arrive. -/
def apology : Expr :=
  .call "Column" [
    .named "mainAxisAlignment" (.code "MainAxisAlignment.center"),
    .named "children" (.list [
      brokenImage,
      .code "SizedBox(height: 4)",
      .call "Text" [
        .positional (.text "Image not available"),
        .named "style" (.call "TextStyle" [
          .named "fontSize" (.code "12"),
          .named "color" (.code "Colors.grey[600]")])]])]

def expr : Picture → Expr
  | missing radius => greyBox radius brokenImage
  | network source fit radius =>
    .call "ClipRRect" [
      .named "borderRadius" (.code (cornerCode radius)),
      .named "child" (.call "Image.network" [
        .positional (.text source),
        .named "fit" (.code fit.code),
        .named "loadingBuilder" (.closure "(context, child, loadingProgress)" [
          .line "if (loadingProgress == null) return child;",
          .result (greyBox radius progress)]),
        .named "errorBuilder" (.closure "(context, error, stackTrace)" [
          .result (greyBox radius apology)])])]

end Picture

namespace Box

/-- The argument that holds the caption of a box, if it has one. -/
def child (b : Box) : List Argument :=
  match b.caption with
  | none => []
  | some caption => [
    .named "child" (.call "Center" [
      .named "child" (.call "Text" [
        .positional (.text caption.text),
        .named "style" (.call "TextStyle" [
          .named "color" (.code caption.color.code),
          .named "fontSize" (.code caption.size.code)])])])]

def expr (b : Box) : Expr :=
  .call "Container" ([
    .named "decoration" (.call "BoxDecoration" [
      .named "color" (.code b.background.code),
      .named "borderRadius" (.code (cornerCode b.radius))])] ++ b.child)

end Box

namespace Widget

def expr : Widget → Expr
  | label content => content.expr
  | heading content => content.expr
  | button content => content.expr
  | card content => content.expr
  | icon content => content.expr
  | picture content => content.expr
  | box content => content.expr
  | placeholder text => .call "Container" [.named "child" (.apply "Text" (.text text))]

/-- The code of a widget that begins in the first column. -/
def code (w : Widget) : String :=
  w.expr.print 0

end Widget

end Maquette
