import Maquette.Proofs.Dart.Names
import Maquette.Proofs.Emission.Widget
import Maquette.Proofs.Widget.Read
import Maquette.Widget.Code

/-!
# Widgets name no scale

The code of a widget has none of the names that tell where scales of the reference
frame are declared and used: what is constant in it is some other name, what varies are
numbers, colours and styles, and displayed texts are literals.
-/

namespace Maquette

open Dart (Expr Free chars)

/-- The names that tell where the scales of the reference frame are declared and used. -/
def scopeNames : List String :=
  ["Stack", "Positioned", "final", Basis.scaleAcross, Basis.scaleDown]

/-- Their characters. -/
def scopeWords : List (List Char) := [
  ['S', 't', 'a', 'c', 'k'],
  ['P', 'o', 's', 'i', 't', 'i', 'o', 'n', 'e', 'd'],
  ['f', 'i', 'n', 'a', 'l'],
  ['s', 'x'],
  ['s', 'y']]

theorem scopeNames_eq : scopeNames = scopeWords.map String.ofList := rfl

section Numbers

variable {taken : List String} (htaken : ∀ name ∈ taken, name.toList.all Dart.isWordChar = false)

include htaken

theorem Binary64.free_literal_of (x : Binary64) : Free taken (chars x.literal.toList) :=
  Dart.free_of_all _ x.all_isWordChar_literal htaken

theorem Binary64.free_fractionLiteral_of (x : Binary64) :
    Free taken (chars x.fractionLiteral.toList) :=
  Dart.free_of_all _ x.all_isWordChar_fractionLiteral htaken

end Numbers

theorem all_isWordChar_of_mem_scopeNames :
    ∀ name ∈ scopeNames, name.toList.all Dart.isWordChar = false := by decide

namespace Dart

theorem free_ofList {s : List Char} (h : isFree scopeWords s = true) :
    Free scopeNames (chars (String.ofList s).toList) := by
  rw [String.toList_ofList]
  exact free_of_isFree scopeNames_eq h

/-- The text has none of the names, and no name goes on from it. -/
def isFreePrefix (left : List Char) : Bool :=
  endsNames left && isFree scopeWords left

/-- The text has none of the names, and no name goes on into it. -/
def isFreeSuffix (right : List Char) : Bool :=
  (right.head?.any fun c => !isNameChar c) && isFree scopeWords right

theorem Free.prefixed {left : List Char} {text : String}
    (htext : Free scopeNames (chars text.toList)) (h : isFreePrefix left = true) :
    Free scopeNames (chars (String.ofList left ++ text).toList) := by
  rw [isFreePrefix, Bool.and_eq_true] at h
  rw [String.toList_append, String.toList_ofList, Dart.chars_append]
  exact Free.chars_append h.1 (free_of_isFree scopeNames_eq h.2) htext

theorem Free.suffixed {right : List Char} {text : String}
    (htext : Free scopeNames (chars text.toList)) (h : isFreeSuffix right = true) :
    Free scopeNames (chars (text ++ String.ofList right).toList) := by
  rw [isFreeSuffix, Bool.and_eq_true] at h
  have hright := free_of_isFree scopeNames_eq h.2
  rw [String.toList_append, String.toList_ofList, Dart.chars_append]
  cases right with
  | nil => cases h.1
  | cons c right =>
    have hc : isNameChar c = false := by simpa using h.1
    exact (free_append_cons hc).2 ⟨htext, (free_cons hc).1 hright⟩

theorem Free.joined {between : List Char} {text more : String}
    (htext : Free scopeNames (chars text.toList)) (hmore : Free scopeNames (chars more.toList))
    (h : (isFreePrefix between && isFreeSuffix between) = true) :
    Free scopeNames (chars (text ++ String.ofList between ++ more).toList) := by
  rw [Bool.and_eq_true] at h
  have hafter := hmore.prefixed h.1
  have hsuffix := h.2
  rw [isFreeSuffix, Bool.and_eq_true] at hsuffix
  rw [String.append_assoc, String.toList_append, Dart.chars_append]
  cases between with
  | nil => cases hsuffix.1
  | cons c between =>
    have hc : isNameChar c = false := by simpa using hsuffix.1
    rw [String.toList_append, String.toList_ofList] at hafter ⊢
    exact (free_append_cons hc).2 ⟨htext, (free_cons hc).1 hafter⟩

end Dart

namespace Binary64

theorem free_literal (x : Binary64) : Free scopeNames (chars x.literal.toList) :=
  x.free_literal_of all_isWordChar_of_mem_scopeNames

end Binary64

theorem Color.free_code (c : Color) : Free scopeNames (chars c.code.toList) := by
  cases c with
  | transparent => exact Dart.free_ofList (by decide)
  | black => exact Dart.free_ofList (by decide)
  | white => exact Dart.free_ofList (by decide)
  | argb a r g b =>
    have hchannels : Free scopeNames (chars ("0x".toList ++ (channelText a ++ channelText r ++
        channelText g ++ channelText b))) := by
      refine Dart.free_of_all Dart.isWordChar ?_ all_isWordChar_of_mem_scopeNames
      simp only [List.all_append, all_isWordChar_channelText, Bool.and_self, Bool.and_true]
      decide
    have hcode : (argb a r g b).code = "Color(" ++ String.ofList ("0x".toList ++ (channelText a ++
        channelText r ++ channelText g ++ channelText b)) ++ ")" := by
      rw [← String.toList_inj]
      simp [code]
    rw [← String.toList_ofList (l := _ ++ _)] at hchannels
    rw [hcode]
    exact (hchannels.prefixed (by decide)).suffixed (by decide)

theorem Icon.free_glyphOf (value : Json) : Free scopeNames (chars (glyphOf value).toList) := by
  have hall : ∀ entry ∈ glyphs, Free scopeNames (chars entry.2.toList) := by
    simp only [glyphs, List.forall_mem_cons]
    and_intros
    all_goals first
      | exact Dart.free_ofList (by decide)
      | exact fun _ h => absurd h List.not_mem_nil
  have hunknown : Free scopeNames (chars unknownGlyph.toList) := Dart.free_ofList (by decide)
  cases value with
  | string name =>
    rw [glyphOf]
    cases h : glyphs.lookup (Text.key name) with
    | none => exact hunknown
    | some glyph =>
      obtain ⟨before, after, hglyphs, -⟩ := List.lookup_eq_some_iff.1 h
      have hmem : (Text.key name, glyph) ∈ glyphs := by simp [hglyphs]
      exact hall _ hmem
  | _ => exact hunknown

theorem BoxFit.free_code (fit : BoxFit) : Free scopeNames (chars fit.code.toList) := by
  cases fit <;> exact Dart.free_ofList (by decide)

theorem TextAlign.free_code (align : TextAlign) : Free scopeNames (chars align.code.toList) := by
  cases align <;> exact Dart.free_ofList (by decide)

theorem Insets.free_code (insets : Insets) : Free scopeNames (chars insets.code.toList) := by
  cases insets with
  | all amount => exact (amount.free_literal.prefixed (by decide)).suffixed (by decide)
  | symmetric horizontal vertical =>
    have hinside : Free scopeNames
        (chars (horizontal.literal ++ ", vertical: " ++ vertical.literal).toList) :=
      horizontal.free_literal.joined vertical.free_literal (by decide)
    rw [code_symmetric]
    exact (hinside.prefixed (by decide)).suffixed (by decide)

theorem FontSize.free_code (size : FontSize) : Free scopeNames (chars size.code.toList) := by
  cases size with
  | fixed points => exact points.free_literal
  | ofWidth fraction => exact fraction.free_literal.prefixed (by decide)

theorem free_cornerCode (radius : Binary64) : Free scopeNames (chars (cornerCode radius).toList) :=
  (radius.free_literal.prefixed (by decide)).suffixed (by decide)

theorem free_weightCode {otherwise : String} (h : Free scopeNames (chars otherwise.toList))
    (bold : Bool) : Free scopeNames (chars (weightCode bold otherwise).toList) := by
  cases bold with
  | true => exact Dart.free_ofList (by decide)
  | false => exact h

namespace Label

theorem avoids_expr (l : Label) : l.expr.Avoids scopeNames := by
  have hnormal : Free scopeNames (chars "FontWeight.normal".toList) := Dart.free_ofList (by decide)
  have hstyle : Free scopeNames
      (chars (if l.italic then "FontStyle.italic" else "FontStyle.normal").toList) := by
    cases l.italic <;> exact Dart.free_ofList (by decide)
  simp only [expr, Caption.sizeAndColor, List.cons_append, List.nil_append, Expr.Avoids,
    Dart.ArgumentsAvoid, FontSize.free_code, Color.free_code, TextAlign.free_code,
    free_weightCode hnormal, hstyle, true_and, and_true]
  and_intros <;> exact Dart.free_ofList (by decide)

end Label

namespace Heading

theorem avoids_expr (h : Heading) : h.expr.Avoids scopeNames := by
  have hmedium : Free scopeNames (chars "FontWeight.w600".toList) := Dart.free_ofList (by decide)
  simp only [expr, Caption.sizeAndColor, List.cons_append, List.nil_append, Expr.Avoids,
    Dart.ArgumentsAvoid, FontSize.free_code, Color.free_code, free_weightCode hmedium, true_and,
    and_true]
  and_intros <;> exact Dart.free_ofList (by decide)

end Heading

namespace Button

theorem avoids_expr (b : Button) : b.expr.Avoids scopeNames := by
  have hnormal : Free scopeNames (chars "FontWeight.normal".toList) := Dart.free_ofList (by decide)
  have hcomment : Free scopeNames (Dart.lineGlyphs "// Add button action here") := by
    decide
  simp only [expr, Expr.Avoids, Dart.ArgumentsAvoid, Dart.BodyAvoids, hcomment,
    FontSize.free_code, Color.free_code, Insets.free_code, Binary64.free_literal,
    free_cornerCode, free_weightCode hnormal, true_and, and_true]
  and_intros <;> exact Dart.free_ofList (by decide)

end Button

namespace Card

theorem avoids_titleExpr (c : Caption) : (titleExpr c).Avoids scopeNames := by
  simp only [titleExpr, Caption.sizeAndColor, List.cons_append, List.nil_append, Expr.Avoids,
    Dart.ArgumentsAvoid, FontSize.free_code, Color.free_code, true_and, and_true]
  and_intros <;> exact Dart.free_ofList (by decide)

theorem avoids_bodyExpr (c : Caption) : (bodyExpr c).Avoids scopeNames := by
  simp only [bodyExpr, Caption.sizeAndColor, Expr.Avoids, Dart.ArgumentsAvoid,
    FontSize.free_code, Color.free_code, true_and, and_true]
  and_intros <;> exact Dart.free_ofList (by decide)

theorem avoid_texts (c : Card) : Dart.ItemsAvoid scopeNames (c.texts.map .moved) := by
  have hgap : Free scopeNames (chars "SizedBox(height: 8)".toList) := Dart.free_ofList (by decide)
  unfold texts
  cases c.title with
  | none =>
    cases c.body with
    | none => exact trivial
    | some body => exact ⟨avoids_bodyExpr body, trivial⟩
  | some title =>
    cases c.body with
    | none => exact ⟨avoids_titleExpr title, trivial⟩
    | some body => exact ⟨avoids_titleExpr title, hgap, avoids_bodyExpr body, trivial⟩

theorem avoids_child (c : Card) : Dart.ArgumentsAvoid scopeNames c.child := by
  have htexts := c.avoid_texts
  unfold child
  cases h : c.texts with
  | nil => exact trivial
  | cons text rest =>
    rw [h] at htexts
    have hpadding : Free scopeNames
        (chars ("EdgeInsets.all(" ++ c.padding.literal ++ ")").toList) :=
      (c.padding.free_literal.prefixed (by decide)).suffixed (by decide)
    simp only [Dart.ArgumentsAvoid, Expr.Avoids, htexts, hpadding, true_and, and_true]
    and_intros <;> exact Dart.free_ofList (by decide)

theorem avoids_expr (c : Card) : c.expr.Avoids scopeNames := by
  have hcallee : Free scopeNames (chars "Card".toList) := Dart.free_ofList (by decide)
  refine ⟨hcallee, Dart.argumentsAvoid_append ?_ c.avoids_child⟩
  simp only [Expr.Avoids, Dart.ArgumentsAvoid, Color.free_code, Binary64.free_literal,
    free_cornerCode, true_and, and_true]
  and_intros <;> exact Dart.free_ofList (by decide)

end Card

namespace IconMark

theorem avoids_expr {i : IconMark} (h : Free scopeNames (chars i.glyph.toList)) :
    i.expr.Avoids scopeNames := by
  simp only [expr, Expr.Avoids, Dart.ArgumentsAvoid, Color.free_code, Binary64.free_literal, h,
    true_and, and_true]
  and_intros <;> exact Dart.free_ofList (by decide)

end IconMark

namespace Picture

theorem avoids_greyBox (radius : Binary64) {child : Expr} (h : child.Avoids scopeNames) :
    (greyBox radius child).Avoids scopeNames := by
  simp only [greyBox, Expr.Avoids, Dart.ArgumentsAvoid, free_cornerCode, h, and_true]
  and_intros <;> exact Dart.free_ofList (by decide)

theorem avoids_brokenImage : brokenImage.Avoids scopeNames := by
  simp only [brokenImage, Expr.Avoids, Dart.ArgumentsAvoid, and_true]
  and_intros <;> exact Dart.free_ofList (by decide)

theorem avoids_progress : progress.Avoids scopeNames := by
  simp only [progress, Expr.Avoids, Dart.ArgumentsAvoid, List.forall_mem_cons, and_true]
  and_intros
  all_goals first
    | exact Dart.free_ofList (by decide)
    | exact fun _ h => absurd h List.not_mem_nil

theorem avoids_apology : apology.Avoids scopeNames := by
  simp only [apology, Expr.Avoids, Dart.ArgumentsAvoid, Dart.ItemsAvoid, avoids_brokenImage,
    and_true, true_and]
  and_intros <;> exact Dart.free_ofList (by decide)

theorem avoids_expr (p : Picture) : p.expr.Avoids scopeNames := by
  cases p with
  | missing radius => exact avoids_greyBox radius avoids_brokenImage
  | network source fit radius =>
    have hline : Free scopeNames
        (Dart.lineGlyphs "if (loadingProgress == null) return child;") := by decide
    simp only [expr, Expr.Avoids, Dart.ArgumentsAvoid, Dart.BodyAvoids, hline,
      avoids_greyBox radius avoids_progress, avoids_greyBox radius avoids_apology,
      free_cornerCode, BoxFit.free_code, true_and, and_true]
    and_intros <;> exact Dart.free_ofList (by decide)

end Picture

namespace Box

theorem avoids_child (b : Box) : Dart.ArgumentsAvoid scopeNames b.child := by
  unfold child
  cases b.caption with
  | none => exact trivial
  | some caption =>
    simp only [Expr.Avoids, Dart.ArgumentsAvoid, Color.free_code, FontSize.free_code, true_and,
      and_true]
    and_intros <;> exact Dart.free_ofList (by decide)

theorem avoids_expr (b : Box) : b.expr.Avoids scopeNames := by
  have hcallee : Free scopeNames (chars "Container".toList) := Dart.free_ofList (by decide)
  refine ⟨hcallee, Dart.argumentsAvoid_append ?_ b.avoids_child⟩
  simp only [Expr.Avoids, Dart.ArgumentsAvoid, Color.free_code, free_cornerCode, true_and,
    and_true]
  and_intros <;> exact Dart.free_ofList (by decide)

end Box

namespace Widget

/-- The glyph of an icon is one of the icons that there are. -/
theorem exists_glyphOf_of_ofComponent {c : Component} {content : IconMark}
    (h : ofComponent c = .ok (.icon content)) : ∃ value, content.glyph = Icon.glyphOf value := by
  unfold ofComponent at h
  split at h
  · obtain ⟨_, -, h⟩ := exists_of_map_eq_ok h
    cases h
  · obtain ⟨_, -, h⟩ := exists_of_map_eq_ok h
    cases h
  · obtain ⟨_, -, h⟩ := exists_of_map_eq_ok h
    cases h
  · obtain ⟨_, -, h⟩ := exists_of_map_eq_ok h
    cases h
  · obtain ⟨found, hfound, h⟩ := exists_of_map_eq_ok h
    obtain rfl := Widget.icon.inj h
    exact ⟨_, (IconMark.readFrom_of_ofComponent hfound).glyph⟩
  · obtain ⟨_, -, h⟩ := exists_of_map_eq_ok h
    cases h
  · obtain ⟨_, -, h⟩ := exists_of_map_eq_ok h
    cases h
  · cases Except.ok.inj h

/-- The widget of a component has none of the names. -/
theorem avoids_expr {c : Component} {w : Widget} (h : ofComponent c = .ok w) :
    w.expr.Avoids scopeNames := by
  cases w with
  | label content => exact content.avoids_expr
  | heading content => exact content.avoids_expr
  | button content => exact content.avoids_expr
  | card content => exact content.avoids_expr
  | icon content =>
    obtain ⟨value, hvalue⟩ := exists_glyphOf_of_ofComponent h
    refine IconMark.avoids_expr ?_
    rw [hvalue]
    exact Icon.free_glyphOf value
  | picture content => exact content.avoids_expr
  | box content => exact content.avoids_expr
  | placeholder text =>
    simp only [expr, Expr.Avoids, Dart.ArgumentsAvoid, and_true]
    and_intros <;> exact Dart.free_ofList (by decide)

end Widget

end Maquette
