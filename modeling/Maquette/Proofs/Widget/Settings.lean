import Maquette.Proofs.Dart.Unlabeled
import Maquette.Proofs.Widget.Names

/-!
# What the code of a widget sets

The sizes and amounts of a widget can be read off its code: numbers, colours and styles
have no labels in them, insets only those of their sides, and what is a call, a list or
a function is set under one of a few names. The main statements are the sizes of type
that the code of a widget sets, and the padding that the code of a button sets.
-/

namespace Maquette

open Dart (Expr Unlabeled Clear clear_ofList)

/-- The labels that are set to more than code on one line, and those inside of such
code. -/
def frameLabels : List String := [
  "", "height", "horizontal", "vertical", "onPressed", "style", "side", "shape", "child",
  "children", "decoration", "value", "loadingBuilder", "errorBuilder"]

theorem ne_of_notMem_frameLabels {label : String} (h : label ∉ frameLabels) :
    label ≠ "" ∧ label ≠ "height" ∧ label ≠ "horizontal" ∧ label ≠ "vertical" ∧
      label ≠ "onPressed" ∧ label ≠ "style" ∧ label ≠ "side" ∧ label ≠ "shape" ∧
      label ≠ "child" ∧ label ≠ "children" ∧ label ≠ "decoration" ∧ label ≠ "value" ∧
      label ≠ "loadingBuilder" ∧ label ≠ "errorBuilder" := by
  simpa only [frameLabels, List.mem_cons, List.not_mem_nil, or_false, not_or] using h

namespace Widget

/-- The sizes of type that the code of a widget sets, in order. -/
def sizes : Widget → List FontSize
  | label content => [content.caption.size]
  | heading content => [content.caption.size]
  | button content => [content.size]
  | card content => (content.title.toList ++ content.body.toList).map Caption.size
  | icon _ => []
  | picture (.missing _) => []
  | picture (.network _ _ _) => [.fixed 12]
  | box content => content.caption.toList.map Caption.size
  | placeholder _ => []

end Widget

section Clear

variable {label : String} (h : label ∉ frameLabels)

theorem clear_weightCode {otherwise : String} (hotherwise : Clear label otherwise) (bold : Bool) :
    Clear label (weightCode bold otherwise) := by
  cases bold with
  | true => exact clear_ofList (by decide) label
  | false => exact hotherwise

include h

theorem Label.clearOf_expr (l : Label) : l.expr.ClearOf label := by
  have hnormal : Clear label "FontWeight.normal" := clear_ofList (by decide) label
  have hstyle : Clear label (if l.italic then "FontStyle.italic" else "FontStyle.normal") := by
    cases l.italic <;> exact clear_ofList (by decide) label
  simp only [expr, Caption.sizeAndColor, List.cons_append, List.nil_append, Expr.ClearOf,
    Dart.ArgumentsClearOf, Expr.code?, Option.isSome_some, Unlabeled.clear, FontSize.unlabeled_code,
    Color.unlabeled_code, TextAlign.unlabeled_code, clear_weightCode hnormal, hstyle,
    ne_of_notMem_frameLabels h, implies_true, false_implies, true_and, and_true]
  and_intros
  all_goals first
    | exact clear_ofList (by decide) label
    | decide

theorem Heading.clearOf_expr (content : Heading) : content.expr.ClearOf label := by
  have hmedium : Clear label "FontWeight.w600" := clear_ofList (by decide) label
  simp only [expr, Caption.sizeAndColor, List.cons_append, List.nil_append, Expr.ClearOf,
    Dart.ArgumentsClearOf, Expr.code?, Option.isSome_some, Unlabeled.clear, FontSize.unlabeled_code,
    Color.unlabeled_code, clear_weightCode hmedium, ne_of_notMem_frameLabels h, implies_true,
    false_implies, true_and, and_true]
  and_intros
  all_goals first
    | exact clear_ofList (by decide) label
    | decide

theorem Button.clearOf_expr (b : Button) : b.expr.ClearOf label := by
  have hnormal : Clear label "FontWeight.normal" := clear_ofList (by decide) label
  have hcomment : label ∉ Dart.labels (Dart.lineGlyphs "// Add button action here") := by
    have hnone : Dart.labels (Dart.lineGlyphs "// Add button action here") = [] := by decide
    rw [hnone]
    exact List.not_mem_nil
  simp only [expr, Expr.ClearOf, Dart.ArgumentsClearOf, Dart.BodyClearOf, Expr.code?,
    Option.isSome_some, Unlabeled.clear, FontSize.unlabeled_code, Color.unlabeled_code,
    Binary64.unlabeled_literal, unlabeled_cornerCode, Insets.clear_code, hcomment,
    clear_weightCode hnormal, ne_of_notMem_frameLabels h, ne_eq, not_false_eq_true, implies_true,
    false_implies, true_and, and_true]
  and_intros
  all_goals first
    | exact clear_ofList (by decide) label
    | decide

theorem Card.clearOf_titleExpr (c : Caption) : (titleExpr c).ClearOf label := by
  simp only [titleExpr, Caption.sizeAndColor, List.cons_append, List.nil_append, Expr.ClearOf,
    Dart.ArgumentsClearOf, Expr.code?, Option.isSome_some, Unlabeled.clear, FontSize.unlabeled_code,
    Color.unlabeled_code, ne_of_notMem_frameLabels h, implies_true, false_implies, true_and,
    and_true]
  and_intros
  all_goals first
    | exact clear_ofList (by decide) label
    | decide

theorem Card.clearOf_bodyExpr (c : Caption) : (bodyExpr c).ClearOf label := by
  simp only [bodyExpr, Caption.sizeAndColor, Expr.ClearOf, Dart.ArgumentsClearOf, Expr.code?,
    Option.isSome_some, Unlabeled.clear, FontSize.unlabeled_code, Color.unlabeled_code,
    ne_of_notMem_frameLabels h, implies_true, false_implies, true_and, and_true]
  and_intros
  all_goals first
    | exact clear_ofList (by decide) label
    | decide

theorem Card.clearOf_texts (c : Card) : Dart.ItemsClearOf label (c.texts.map .moved) := by
  have hgap : Clear label "SizedBox(height: 8)" := by
    refine Dart.clear_of_labels ["height"] (by decide) ?_ (by decide)
    simp [ne_of_notMem_frameLabels h]
  unfold texts
  cases c.title with
  | none =>
    cases c.body with
    | none => exact trivial
    | some body => exact ⟨clearOf_bodyExpr h body, trivial⟩
  | some title =>
    cases c.body with
    | none => exact ⟨clearOf_titleExpr h title, trivial⟩
    | some body => exact ⟨clearOf_titleExpr h title, hgap, clearOf_bodyExpr h body, trivial⟩

theorem Card.clearOf_child (c : Card) : Dart.ArgumentsClearOf label c.child := by
  have htexts := c.clearOf_texts h
  unfold child
  cases hfound : c.texts with
  | nil => exact trivial
  | cons text rest =>
    rw [hfound] at htexts
    have hpadding : Unlabeled ("EdgeInsets.all(" ++ c.padding.literal ++ ")") :=
      c.padding.unlabeled_literal.wrapped (by decide) (by decide)
    simp only [Dart.ArgumentsClearOf, Expr.ClearOf, Expr.code?, Option.isSome_some, htexts,
      hpadding.clear, ne_of_notMem_frameLabels h, implies_true, false_implies, true_and, and_true]
    and_intros
    all_goals first
      | exact clear_ofList (by decide) label
      | decide

theorem Card.clearOf_expr (c : Card) : c.expr.ClearOf label := by
  have hcallee : Clear label "Card" := clear_ofList (by decide) label
  refine ⟨hcallee, Dart.argumentsClearOf_append ?_ (c.clearOf_child h)⟩
  simp only [Expr.ClearOf, Dart.ArgumentsClearOf, Expr.code?, Option.isSome_some, Unlabeled.clear,
    Color.unlabeled_code, Binary64.unlabeled_literal, unlabeled_cornerCode,
    ne_of_notMem_frameLabels h, implies_true, false_implies, true_and, and_true]
  and_intros
  all_goals first
    | exact clear_ofList (by decide) label
    | decide

omit h in
theorem IconMark.clearOf_expr {i : IconMark} (hglyph : Clear label i.glyph) :
    i.expr.ClearOf label := by
  simp only [expr, Expr.ClearOf, Dart.ArgumentsClearOf, Expr.code?, Option.isSome_some,
    Unlabeled.clear, Color.unlabeled_code, Binary64.unlabeled_literal, hglyph, implies_true,
    true_and, and_true]
  and_intros
  all_goals first
    | exact clear_ofList (by decide) label
    | decide

namespace Picture

theorem clearOf_greyBox (radius : Binary64) {child : Expr} (hchild : child.ClearOf label) :
    (greyBox radius child).ClearOf label := by
  simp only [greyBox, Expr.ClearOf, Dart.ArgumentsClearOf, Expr.code?, Option.isSome_some,
    Unlabeled.clear, unlabeled_cornerCode, hchild, ne_of_notMem_frameLabels h, implies_true,
    false_implies, true_and, and_true]
  and_intros
  all_goals first
    | exact clear_ofList (by decide) label
    | decide

omit h in
theorem clearOf_brokenImage : brokenImage.ClearOf label := by
  simp only [brokenImage, Expr.ClearOf, Dart.ArgumentsClearOf, Expr.code?, Option.isSome_some,
    implies_true, true_and, and_true]
  and_intros
  all_goals first
    | exact clear_ofList (by decide) label
    | decide

theorem clearOf_progress : progress.ClearOf label := by
  have hvalue (column : Nat) : label ∉ Dart.labels (Dart.chars
      ("loadingProgress.expectedTotalBytes != null" ++ Dart.continuation column [
        (4, "? loadingProgress.cumulativeBytesLoaded /"),
        (8, "loadingProgress.expectedTotalBytes!"),
        (4, ": null")]).toList) := by
    have hfound : Dart.labelsFrom []
          (Dart.chars "loadingProgress.expectedTotalBytes != null".toList) ++
        ([(4, "? loadingProgress.cumulativeBytesLoaded /"),
          (8, "loadingProgress.expectedTotalBytes!"),
          (4, ": null")].flatMap fun line : Nat × String =>
            Dart.labels (Dart.chars line.2.toList)) = [""] := by decide
    rw [String.toList_append, Dart.chars_append, Dart.labels, Dart.labels_append_continuation,
      hfound, List.mem_singleton]
    exact (ne_of_notMem_frameLabels h).1
  simp only [progress, Expr.ClearOf, Dart.ArgumentsClearOf, Expr.code?, hvalue,
    ne_of_notMem_frameLabels h, not_false_eq_true, false_implies, implies_true, true_and, and_true]
  and_intros
  all_goals first
    | exact clear_ofList (by decide) label
    | decide

theorem clearOf_apology : apology.ClearOf label := by
  have hgap : Clear label "SizedBox(height: 4)" := by
    refine Dart.clear_of_labels ["height"] (by decide) ?_ (by decide)
    simp [ne_of_notMem_frameLabels h]
  have hbroken : brokenImage.ClearOf label := clearOf_brokenImage
  simp only [apology, Expr.ClearOf, Dart.ArgumentsClearOf, Dart.ItemsClearOf, Expr.code?,
    Option.isSome_some, hgap, hbroken, ne_of_notMem_frameLabels h, implies_true, false_implies,
    true_and, and_true]
  and_intros
  all_goals first
    | exact clear_ofList (by decide) label
    | decide

theorem clearOf_expr (p : Picture) : p.expr.ClearOf label := by
  cases p with
  | missing radius => exact clearOf_greyBox h radius clearOf_brokenImage
  | network source fit radius =>
    have hline : label ∉
        Dart.labels (Dart.lineGlyphs "if (loadingProgress == null) return child;") := by
      have hnone : Dart.labels
          (Dart.lineGlyphs "if (loadingProgress == null) return child;") = [] := by decide
      rw [hnone]
      exact List.not_mem_nil
    have hprogress := clearOf_greyBox h radius (clearOf_progress h)
    have hapology := clearOf_greyBox h radius (clearOf_apology h)
    simp only [expr, Expr.ClearOf, Dart.ArgumentsClearOf, Dart.BodyClearOf, Expr.code?,
      Option.isSome_some, Unlabeled.clear, unlabeled_cornerCode, BoxFit.unlabeled_code, hline,
      hprogress, hapology, ne_of_notMem_frameLabels h, implies_true, false_implies, true_and,
      and_true]
    and_intros
    all_goals first
      | exact clear_ofList (by decide) label
      | decide

end Picture

theorem Box.clearOf_child (b : Box) : Dart.ArgumentsClearOf label b.child := by
  unfold child
  cases b.caption with
  | none => exact trivial
  | some caption =>
    simp only [Expr.ClearOf, Dart.ArgumentsClearOf, Expr.code?, Option.isSome_some, Unlabeled.clear,
      FontSize.unlabeled_code, Color.unlabeled_code, ne_of_notMem_frameLabels h, implies_true,
      false_implies, true_and, and_true]
    and_intros
    all_goals first
      | exact clear_ofList (by decide) label
      | decide

theorem Box.clearOf_expr (b : Box) : b.expr.ClearOf label := by
  have hcallee : Clear label "Container" := clear_ofList (by decide) label
  refine ⟨hcallee, Dart.argumentsClearOf_append ?_ (b.clearOf_child h)⟩
  simp only [Expr.ClearOf, Dart.ArgumentsClearOf, Expr.code?, Option.isSome_some, Unlabeled.clear,
    Color.unlabeled_code, unlabeled_cornerCode, ne_of_notMem_frameLabels h, implies_true,
    false_implies, true_and, and_true]
  and_intros
  all_goals first
    | exact clear_ofList (by decide) label
    | decide

/-- The code of a component's widget is clear of every label but those of the frame. -/
theorem Widget.clearOf_expr {c : Component} {w : Widget} (hw : ofComponent c = .ok w) :
    w.expr.ClearOf label := by
  cases w with
  | label content => exact content.clearOf_expr h
  | heading content => exact content.clearOf_expr h
  | button content => exact content.clearOf_expr h
  | card content => exact content.clearOf_expr h
  | icon content =>
    obtain ⟨value, hglyph⟩ := exists_glyphOf_of_ofComponent hw
    exact content.clearOf_expr (hglyph ▸ (Icon.unlabeled_glyphOf value).clear label)
  | picture content => exact content.clearOf_expr h
  | box content => exact content.clearOf_expr h
  | placeholder text =>
    simp only [expr, Expr.ClearOf, Dart.ArgumentsClearOf, Expr.code?, ne_of_notMem_frameLabels h,
      false_implies, true_and, and_true]
    and_intros
    all_goals first
      | exact clear_ofList (by decide) label
      | decide

end Clear

/-- The size of the text that stands for a picture that cannot be shown. -/
theorem FontSize.code_twelve : (fixed 12).code = "12" := by
  decide +kernel

namespace Widget

/-- The sizes of type that the code of a widget sets are those of the widget. -/
theorem settings_fontSize_expr (w : Widget) :
    w.expr.settings "fontSize" = w.sizes.map FontSize.code := by
  cases w with
  | label content => rfl
  | heading content => rfl
  | button content => rfl
  | card content =>
    rcases content with ⟨background, elevation, radius, padding, _ | title, _ | body⟩ <;> rfl
  | icon content => rfl
  | picture content =>
    cases content with
    | missing radius => rfl
    | network source fit radius =>
      rw [sizes, List.map_singleton, FontSize.code_twelve]
      rfl
  | box content => rcases content with ⟨background, radius, _ | caption⟩ <;> rfl
  | placeholder text => rfl

theorem settings_padding_button (b : Button) :
    (button b).expr.settings "padding" = [b.padding.code] := rfl

end Widget

end Maquette
