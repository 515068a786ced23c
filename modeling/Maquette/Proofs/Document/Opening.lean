import Maquette.Proofs.Dart.Unlabeled
import Maquette.Proofs.Document.Legible

/-!
# The app bar in the opening of a document

The labels of the opening, in order. All of them are the same for every screen but
those of the app bar, which are there exactly when the screen has one.
-/

namespace Maquette

open Dart (Plain plain_ofList chars labels)

theorem not_colon_mem_of_all {s : List Char} (h : s.all Dart.isWordChar = true) : ':' ∉ s := by
  intro hmem
  exact absurd (List.all_eq_true.1 h ':' hmem) (by decide)

theorem Color.not_colon_mem_code (c : Color) : ':' ∉ c.code.toList :=
  c.unlabeled_code.not_mem (by decide)

namespace Document

theorem labels_scheme {seed : String} (h : ':' ∉ seed.toList) (column : Nat) :
    labels ((Dart.Expr.code (schemeCode seed)).glyphs column ++ chars [',', '\n']) =
      ["seedColor"] := by
  have hseed := Dart.labelsFrom_chars_append (c := ')') h (by decide) (by decide) []
    (chars [',', '\n'])
  have hscheme (gs : List Dart.Glyph) :
      labels (chars "ColorScheme.fromSeed(seedColor: ".toList ++ gs) = ["seedColor"] ++ labels gs :=
    Dart.labels_ofList_append (by decide) gs
  have hcode : (schemeCode seed).toList =
      "ColorScheme.fromSeed(seedColor: ".toList ++ (seed.toList ++ ")".toList) := by
    unfold schemeCode
    rw [String.toList_append, String.toList_append, List.append_assoc]
  rw [Dart.Expr.glyphs, hcode, Dart.chars_append, Dart.chars_append, List.append_assoc,
    List.append_assoc]
  rw [hscheme]
  exact congrArg (["seedColor"] ++ ·) hseed

theorem labels_text (text : String) (column : Nat) :
    labels ((Dart.Expr.text text).glyphs column ++ chars [',', '\n']) = [] := rfl

theorem labels_appBody (appName : Json) (palette : Palette) :
    labels (Dart.bodyGlyphs 4 (appBody appName palette)) =
      ["title", "theme", "useMaterial3", "colorScheme", "seedColor", "scaffoldBackgroundColor",
        "home", "debugShowCheckedModeBanner"] := by
  rw [appBody, Dart.labels_result_call (by decide), Dart.labels_named (by decide),
    Dart.labels_named (by decide), Dart.labels_call (by decide) _ _ (by decide) (by decide),
    Dart.labels_named (by decide), Dart.labels_named (by decide), Dart.labels_named (by decide),
    Dart.labels_named (by decide), Dart.labels_named (by decide), labels_text,
    Dart.labels_code _ palette.scaffold.not_colon_mem_code,
    labels_scheme palette.seed.not_colon_mem_code, Dart.labels_code "true" (by decide),
    Dart.labels_code "HomeScreen()" (by decide),
    Dart.labels_code "false" (by decide)]
  rfl

theorem labels_front (appName : Json) (palette : Palette) :
    labels (Dart.bodyGlyphs 0 (front (appBody appName palette))) =
      ["title", "theme", "useMaterial3", "colorScheme", "seedColor", "scaffoldBackgroundColor",
        "home", "debugShowCheckedModeBanner"] := by
  have himport : labels (Dart.lineGlyphs "import 'package:flutter/material.dart';" ++
      [.char '\n']) = [] := by decide
  have hrun : Plain "runApp(MyApp());" := plain_ofList (by decide)
  have hoverride : Plain "@override" := plain_ofList (by decide)
  rw [front, Dart.labels_line himport, Dart.labels_gap, Dart.labels_block (by decide),
    Dart.labels_line (Dart.labels_lineGlyphs hrun (by decide)), Dart.labels_gap, widgetClass,
    Dart.labels_block (by decide), Dart.labels_line (Dart.labels_lineGlyphs hoverride (by decide)),
    Dart.labels_block (by decide), labels_appBody, Dart.labels_gap]
  rfl

theorem labels_scale (name axis : String) (hname : Plain name) (haxis : Plain axis)
    (hname' : ':' ∉ name.toList) (haxis' : ':' ∉ axis.toList) (side : Binary64) (column : Nat)
    (rest : List Dart.Statement) :
    labels (Dart.bodyGlyphs column
      (.line ("final double " ++ name ++ axis ++ side.fractionLiteral ++ ";") :: rest)) =
    labels (Dart.bodyGlyphs column rest) := by
  have hdouble : ':' ∉ "final double ".toList := by decide
  have hside := not_colon_mem_of_all side.all_isWordChar_fractionLiteral
  have hlast : ':' ∉ ";".toList := by decide
  refine Dart.labels_line (Dart.labels_lineGlyphs (plain_scale _ _ hname haxis side) ?_) column rest
  rw [String.toList_append, String.toList_append, String.toList_append, String.toList_append]
  simp only [List.mem_append, not_or]
  exact ⟨⟨⟨⟨hdouble, hname'⟩, haxis'⟩, hside⟩, hlast⟩

theorem labels_scales (usesFrame : Bool) :
    labels (Dart.bodyGlyphs 12 (if usesFrame then scales else [])) = [] := by
  cases usesFrame with
  | false => rfl
  | true =>
    refine (labels_scale Basis.scaleAcross " = constraints.maxWidth / "
      (plain_ofList (by decide)) (plain_ofList (by decide)) (by decide) (by decide)
      Basis.referenceWidth 12 _).trans ?_
    exact labels_scale Basis.scaleDown " = constraints.maxHeight / "
      (plain_ofList (by decide)) (plain_ofList (by decide)) (by decide) (by decide)
      Basis.referenceHeight 12 []

theorem labels_pageHead_append (gs : List Dart.Glyph) :
    labels (chars pageHead.toList ++ gs) = labels gs := by
  have hclass (hs : List Dart.Glyph) :
      labels (chars "class HomeScreen extends StatelessWidget \x7b\n".toList ++ hs) =
        [] ++ labels hs := Dart.labels_ofList_append (by decide) hs
  have hoverride (hs : List Dart.Glyph) :
      labels (chars "  @override\n".toList ++ hs) = [] ++ labels hs :=
    Dart.labels_ofList_append (by decide) hs
  have hbuild (hs : List Dart.Glyph) :
      labels (chars "  Widget build(BuildContext context) \x7b\n".toList ++ hs) =
        [] ++ labels hs := Dart.labels_ofList_append (by decide) hs
  have hreturn (hs : List Dart.Glyph) :
      labels (chars "    return Scaffold(\n".toList ++ hs) = [] ++ labels hs :=
    Dart.labels_ofList_append (by decide) hs
  unfold pageHead
  simp only [String.toList_append, Dart.chars_append, List.append_assoc]
  rw [hclass, hoverride, hbuild, hreturn]
  rfl

theorem labels_builderHead_append (gs : List Dart.Glyph) :
    labels (chars builderHead.toList ++ gs) = ["body", "child", "builder"] ++ labels gs := by
  have harea (hs : List Dart.Glyph) :
      labels (chars "      body: SafeArea(\n".toList ++ hs) = ["body"] ++ labels hs :=
    Dart.labels_ofList_append (by decide) hs
  have hlayout (hs : List Dart.Glyph) :
      labels (chars "        child: LayoutBuilder(\n".toList ++ hs) = ["child"] ++ labels hs :=
    Dart.labels_ofList_append (by decide) hs
  have hbuilder (hs : List Dart.Glyph) :
      labels (chars "          builder: (context, constraints) \x7b\n".toList ++ hs) =
        ["builder"] ++ labels hs := Dart.labels_ofList_append (by decide) hs
  unfold builderHead
  simp only [String.toList_append, Dart.chars_append, List.append_assoc]
  rw [harea, hlayout, hbuilder]
  rfl

theorem labels_stackHead :
    labels (chars stackHead.toList) = ["fit", "clipBehavior", "children"] := by
  have hstack (hs : List Dart.Glyph) :
      labels (chars "            return Stack(\n".toList ++ hs) = [] ++ labels hs :=
    Dart.labels_ofList_append (by decide) hs
  have hfit (hs : List Dart.Glyph) :
      labels (chars "              fit: StackFit.expand,\n".toList ++ hs) = ["fit"] ++ labels hs :=
    Dart.labels_ofList_append (by decide) hs
  have hclip (hs : List Dart.Glyph) :
      labels (chars "              clipBehavior: Clip.none,\n".toList ++ hs) =
        ["clipBehavior"] ++ labels hs := Dart.labels_ofList_append (by decide) hs
  have hchildren (hs : List Dart.Glyph) :
      labels (chars "              children: [\n".toList ++ hs) = ["children"] ++ labels hs :=
    Dart.labels_ofList_append (by decide) hs
  rw [← List.append_nil (chars stackHead.toList)]
  unfold stackHead
  simp only [String.toList_append, Dart.chars_append, List.append_assoc]
  rw [hstack, hfit, hclip, hchildren]
  rfl

theorem labels_pageArguments (header : Option Header) (palette : Palette) :
    labels (Dart.argumentGlyphs 6 (pageArguments header palette)) =
      (header.toList.flatMap fun h =>
        "appBar" :: labels ((appBar h).glyphs 6 ++ chars [',', '\n'])) ++ ["backgroundColor"] := by
  have hbackground : labels (Dart.argumentGlyphs 6
      [.named "backgroundColor" (.code palette.scaffold.code)]) = ["backgroundColor"] := by
    rw [Dart.labels_named (by decide), Dart.labels_code _ palette.scaffold.not_colon_mem_code]
    rfl
  cases header with
  | none => exact hbackground
  | some h =>
    change labels (Dart.argumentGlyphs 6 [.named "appBar" (appBar h),
      .named "backgroundColor" (.code palette.scaffold.code)]) = _
    rw [Dart.labels_named (by decide), hbackground]
    simp

/-- The labels of the opening: those of the app bar stand between those of the app
and those of the page. -/
theorem labels_openingGlyphs (appName : Json) (header : Option Header) (palette : Palette)
    (usesFrame : Bool) :
    labels (openingGlyphs appName header palette usesFrame) =
      ["title", "theme", "useMaterial3", "colorScheme", "seedColor", "scaffoldBackgroundColor",
        "home", "debugShowCheckedModeBanner"] ++
      (header.toList.flatMap fun h =>
        "appBar" :: labels ((appBar h).glyphs 6 ++ chars [',', '\n'])) ++
      ["backgroundColor", "body", "child", "builder", "fit", "clipBehavior", "children"] := by
  rw [openingGlyphs]
  simp only [List.append_assoc]
  rw [Dart.labels_append (Dart.wholeLines_bodyGlyphs _ _), labels_front, labels_pageHead_append,
    Dart.labels_append (Dart.wholeLines_argumentGlyphs _ _), labels_pageArguments,
    labels_builderHead_append, Dart.labels_append (Dart.wholeLines_bodyGlyphs _ _), labels_scales,
    labels_stackHead]
  simp

/-- The opening has an argument for the app bar exactly if there is one. -/
theorem appBar_mem_labels_iff (appName : Json) (header : Option Header) (palette : Palette)
    (usesFrame : Bool) :
    "appBar" ∈ labels (openingGlyphs appName header palette usesFrame) ↔ header.isSome = true := by
  rw [labels_openingGlyphs]
  cases header with
  | none => simp
  | some h => simp

end Document

end Maquette
