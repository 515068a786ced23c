import Maquette.Proofs.Dart.Displayed
import Maquette.Proofs.Dart.Plain
import Maquette.Widget.Code

/-!
# What widgets display

The code of a widget is tidy, so it reads as it was meant whatever texts are
displayed; its literals are the texts of the widget; and outside of them it is the
code of the widget without its texts.

The texts of a card are moved to their place inside the card as finished text, so
a soft break in one of them has been reflowed once before the card itself is moved
to its place on the stack.
-/

namespace Maquette

open Dart (Expr Plain Legible plain_ofList)

theorem plain_weightCode (bold : Bool) (otherwise : String) (h : Plain otherwise) :
    Plain (weightCode bold otherwise) := by
  cases bold with
  | true => exact plain_ofList (by decide)
  | false => exact h

namespace Label

theorem tidy_expr (l : Label) : l.expr.Tidy := by
  have hweight := plain_weightCode l.bold "FontWeight.normal" (plain_ofList (by decide))
  have hstyle : Plain (if l.italic then "FontStyle.italic" else "FontStyle.normal") := by
    cases l.italic <;> exact plain_ofList (by decide)
  simp only [expr, Caption.sizeAndColor, List.cons_append, List.nil_append, Expr.Tidy,
    Dart.TidyArguments, FontSize.plain_code, Color.plain_code, TextAlign.plain_code, hweight,
    hstyle, true_and, and_true]
  and_intros <;> exact plain_ofList (by decide)

end Label

namespace Heading

theorem tidy_expr (h : Heading) : h.expr.Tidy := by
  have hweight := plain_weightCode h.bold "FontWeight.w600" (plain_ofList (by decide))
  simp only [expr, Caption.sizeAndColor, List.cons_append, List.nil_append, Expr.Tidy,
    Dart.TidyArguments, FontSize.plain_code, Color.plain_code, hweight, true_and, and_true]
  and_intros <;> exact plain_ofList (by decide)

end Heading

namespace Button

theorem tidy_expr (b : Button) : b.expr.Tidy := by
  have hweight := plain_weightCode b.bold "FontWeight.normal" (plain_ofList (by decide))
  have hbody : Dart.TidyBody [.line "// Add button action here"] :=
    ⟨Dart.legible_line_ofList (by decide), trivial⟩
  simp only [expr, Expr.Tidy, Dart.TidyArguments, hbody, FontSize.plain_code, Color.plain_code,
    Insets.plain_code, Binary64.plain_literal, plain_cornerCode, hweight, true_and, and_true]
  and_intros <;> exact plain_ofList (by decide)

end Button

namespace Card

theorem tidy_titleExpr (c : Caption) : (titleExpr c).Tidy := by
  simp only [titleExpr, Caption.sizeAndColor, List.cons_append, List.nil_append, Expr.Tidy,
    Dart.TidyArguments, FontSize.plain_code, Color.plain_code, true_and, and_true]
  and_intros <;> exact plain_ofList (by decide)

theorem tidy_bodyExpr (c : Caption) : (bodyExpr c).Tidy := by
  simp only [bodyExpr, Caption.sizeAndColor, Expr.Tidy, Dart.TidyArguments, FontSize.plain_code,
    Color.plain_code, true_and, and_true]
  and_intros <;> exact plain_ofList (by decide)

theorem tidy_texts (c : Card) : Dart.TidyItems (c.texts.map .moved) := by
  have hgap : Plain "SizedBox(height: 8)" := plain_ofList (by decide)
  unfold texts
  cases c.title with
  | none =>
    cases c.body with
    | none => exact trivial
    | some body => exact ⟨tidy_bodyExpr body, trivial⟩
  | some title =>
    cases c.body with
    | none => exact ⟨tidy_titleExpr title, trivial⟩
    | some body => exact ⟨tidy_titleExpr title, hgap, tidy_bodyExpr body, trivial⟩

theorem tidy_child (c : Card) : Dart.TidyArguments c.child := by
  have htexts := c.tidy_texts
  unfold child
  cases h : c.texts with
  | nil => exact trivial
  | cons text rest =>
    rw [h] at htexts
    have hpadding : Plain ("EdgeInsets.all(" ++ c.padding.literal ++ ")") :=
      c.padding.plain_literal.wrapped (by decide)
    simp only [Dart.TidyArguments, Expr.Tidy, htexts, hpadding, true_and, and_true]
    and_intros <;> exact plain_ofList (by decide)

theorem tidy_expr (c : Card) : c.expr.Tidy := by
  have hcallee : Plain "Card" := plain_ofList (by decide)
  refine ⟨hcallee, Dart.tidyArguments_append ?_ c.tidy_child⟩
  simp only [Expr.Tidy, Dart.TidyArguments, Color.plain_code, Binary64.plain_literal,
    plain_cornerCode, true_and, and_true]
  and_intros <;> exact plain_ofList (by decide)

end Card

namespace IconMark

theorem tidy_expr {i : IconMark} (h : Plain i.glyph) : i.expr.Tidy := by
  simp only [expr, Expr.Tidy, Dart.TidyArguments, Color.plain_code, Binary64.plain_literal, h,
    true_and, and_true]
  and_intros <;> exact plain_ofList (by decide)

end IconMark

namespace Picture

theorem tidy_greyBox (radius : Binary64) {child : Expr} (h : child.Tidy) :
    (greyBox radius child).Tidy := by
  simp only [greyBox, Expr.Tidy, Dart.TidyArguments, plain_cornerCode, h, and_true]
  and_intros <;> exact plain_ofList (by decide)

theorem tidy_brokenImage : brokenImage.Tidy := by
  simp only [brokenImage, Expr.Tidy, Dart.TidyArguments, and_true]
  and_intros <;> exact plain_ofList (by decide)

/-- The slash of the fraction is the last character of its line. -/
theorem tidy_progress : progress.Tidy := by
  have hspaces (n : Nat) : Plain (Dart.spaces n) := by
    rw [Plain, Dart.toList_spaces]
    exact Legible.blanks n
  have hslash : Plain ("? loadingProgress.cumulativeBytesLoaded /" ++ "\n") := by
    rw [Plain, String.toList_append]
    exact Legible.of_isPlain (by decide)
  have hbroken (column : Nat) : Plain ("loadingProgress.expectedTotalBytes != null" ++
      Dart.continuation column [
        (4, "? loadingProgress.cumulativeBytesLoaded /"),
        (8, "loadingProgress.expectedTotalBytes!"),
        (4, ": null")]) := by
    have hfirst : Plain ("loadingProgress.expectedTotalBytes != null" ++ "\n") :=
      Plain.append (plain_ofList (by decide)) (plain_ofList (by decide))
    have hlast : Plain ("loadingProgress.expectedTotalBytes!" ++ "\n") :=
      Plain.append (plain_ofList (by decide)) (plain_ofList (by decide))
    have hlines := ((((hfirst.append (hspaces (column + 4))).append hslash).append
      (hspaces (column + 8))).append hlast).append (hspaces (column + 4))
    have hnull : Plain ": null" := plain_ofList (by decide)
    simpa only [Dart.continuation, String.append_assoc, String.append_empty] using
      hlines.append hnull
  simp only [progress, Expr.Tidy, Dart.TidyArguments, and_true]
  exact ⟨plain_ofList (by decide), plain_ofList (by decide), plain_ofList (by decide),
    plain_ofList (by decide), hbroken⟩

theorem tidy_apology : apology.Tidy := by
  simp only [apology, Expr.Tidy, Dart.TidyArguments, Dart.TidyItems, tidy_brokenImage, and_true,
    true_and]
  and_intros <;> exact plain_ofList (by decide)

theorem tidy_expr (p : Picture) : p.expr.Tidy := by
  cases p with
  | missing radius => exact tidy_greyBox radius tidy_brokenImage
  | network source fit radius =>
    have hline : Plain "if (loadingProgress == null) return child;" := plain_ofList (by decide)
    simp only [expr, Expr.Tidy, Dart.TidyArguments, Dart.TidyBody, hline.legible_line,
      tidy_greyBox radius tidy_progress, tidy_greyBox radius tidy_apology, plain_cornerCode,
      BoxFit.plain_code, true_and, and_true]
    and_intros <;> exact plain_ofList (by decide)

end Picture

namespace Box

theorem tidy_child (b : Box) : Dart.TidyArguments b.child := by
  unfold child
  cases b.caption with
  | none => exact trivial
  | some caption =>
    simp only [Expr.Tidy, Dart.TidyArguments, Color.plain_code, FontSize.plain_code, true_and,
      and_true]
    and_intros <;> exact plain_ofList (by decide)

theorem tidy_expr (b : Box) : b.expr.Tidy := by
  have hcallee : Plain "Container" := plain_ofList (by decide)
  refine ⟨hcallee, Dart.tidyArguments_append ?_ b.tidy_child⟩
  simp only [Expr.Tidy, Dart.TidyArguments, Color.plain_code, plain_cornerCode, true_and, and_true]
  and_intros <;> exact plain_ofList (by decide)

end Box

namespace Widget

/-- The glyph of the widget is code as it stands. Only icons have one. -/
def HasPlainGlyph : Widget → Prop
  | icon content => Plain content.glyph
  | _ => True

theorem tidy_expr {w : Widget} (h : w.HasPlainGlyph) : w.expr.Tidy := by
  cases w with
  | label content => exact content.tidy_expr
  | heading content => exact content.tidy_expr
  | button content => exact content.tidy_expr
  | card content => exact content.tidy_expr
  | icon content => exact IconMark.tidy_expr h
  | picture content => exact content.tidy_expr
  | box content => exact content.tidy_expr
  | placeholder text =>
    simp only [expr, Expr.Tidy, Dart.TidyArguments, and_true]
    and_intros <;> exact plain_ofList (by decide)

/-- The texts that a widget displays, in order. -/
def texts : Widget → List String
  | label content => [content.caption.text]
  | heading content => [content.caption.text]
  | button content => [content.text]
  | card content => (content.title.toList ++ content.body.toList).map Caption.text
  | icon _ => []
  | picture (.missing _) => []
  | picture (.network source _ _) => [source, "Image not available"]
  | box content => content.caption.toList.map Caption.text
  | placeholder text => [text]

/-- How far the texts of a widget are moved inside of its own code. -/
def depth : Widget → Nat
  | card _ => 8
  | _ => 0

theorem texts_expr (w : Widget) :
    w.expr.texts 0 = w.texts.map fun text => Text.reflow w.depth text.toList := by
  cases w with
  | label content =>
    simp [expr, Label.expr, Caption.sizeAndColor, Expr.texts, Dart.argumentTexts, texts, depth]
  | heading content =>
    simp [expr, Heading.expr, Caption.sizeAndColor, Expr.texts, Dart.argumentTexts, texts, depth]
  | button content =>
    have hcomment : Dart.literals (Dart.lineGlyphs "// Add button action here") = [] :=
      (Dart.literals_lineGlyphs_ofList _).trans (by decide)
    simp [expr, Button.expr, Expr.texts, Dart.argumentTexts, Dart.bodyTexts, hcomment, texts, depth]
  | card content =>
    cases htitle : content.title with
    | none =>
      cases hbody : content.body with
      | none =>
        simp [expr, Card.expr, Card.child, Card.texts, htitle, hbody, Expr.texts,
          Dart.argumentTexts, texts]
      | some body =>
        simp [expr, Card.expr, Card.child, Card.texts, htitle, hbody, Expr.texts, Card.bodyExpr,
          Caption.sizeAndColor, Dart.argumentTexts, Dart.itemTexts, texts, depth]
    | some title =>
      cases hbody : content.body with
      | none =>
        simp [expr, Card.expr, Card.child, Card.texts, htitle, hbody, Expr.texts, Card.titleExpr,
          Caption.sizeAndColor, Dart.argumentTexts, Dart.itemTexts, texts, depth]
      | some body =>
        simp [expr, Card.expr, Card.child, Card.texts, htitle, hbody, Expr.texts, Card.titleExpr,
          Card.bodyExpr, Caption.sizeAndColor, Dart.argumentTexts, Dart.itemTexts, texts, depth]
  | icon content => simp [expr, IconMark.expr, Expr.texts, Dart.argumentTexts, texts]
  | picture content =>
    cases content with
    | missing radius =>
      simp [expr, Picture.expr, Picture.greyBox, Picture.brokenImage, Expr.texts,
        Dart.argumentTexts, texts]
    | network source fit radius =>
      have hline : Dart.literals
          (Dart.lineGlyphs "if (loadingProgress == null) return child;") = [] :=
        (Dart.literals_lineGlyphs_ofList _).trans (by decide)
      simp [expr, Picture.expr, Picture.greyBox, Picture.brokenImage, Picture.progress,
        Picture.apology, Expr.texts, Dart.argumentTexts, Dart.bodyTexts, Dart.itemTexts, hline,
        texts, depth]
  | box content =>
    cases hcaption : content.caption with
    | none =>
      simp [expr, Box.expr, Box.child, hcaption, Expr.texts, Dart.argumentTexts, texts]
    | some caption =>
      simp [expr, Box.expr, Box.child, hcaption, Expr.texts, Dart.argumentTexts, texts, depth]
  | placeholder text => simp [expr, Expr.texts, Dart.argumentTexts, texts, depth]

/-- The widget without its texts. -/
def untexted : Widget → Widget
  | label content => label { content with caption := { content.caption with text := "" } }
  | heading content => heading { content with caption := { content.caption with text := "" } }
  | button content => button { content with text := "" }
  | card content => card { content with
      title := content.title.map fun caption => { caption with text := "" }
      body := content.body.map fun caption => { caption with text := "" } }
  | icon content => icon content
  | picture (.missing radius) => picture (.missing radius)
  | picture (.network _ fit radius) => picture (.network "" fit radius)
  | box content => box { content with
      caption := content.caption.map fun caption => { caption with text := "" } }
  | placeholder _ => placeholder ""

theorem blanked_expr_untexted (w : Widget) : w.untexted.expr.blanked = w.expr.blanked := by
  cases w with
  | label content => rfl
  | heading content => rfl
  | button content => rfl
  | card content =>
    rcases content with ⟨background, elevation, radius, padding, _ | title, _ | body⟩ <;> rfl
  | icon content => rfl
  | picture content => cases content <;> rfl
  | box content => rcases content with ⟨background, radius, _ | caption⟩ <;> rfl
  | placeholder text => rfl

end Widget

end Maquette
