import Maquette.Proofs.Document.Parts
import Maquette.Proofs.Emission.Row

/-!
# Documents read as they were meant

The glyphs of a whole document. The opening of a screen leaves eight brackets
open, its rows leave them as they are, and the closing closes them; a page that
welcomes its reader is printed from one tidy tree.
-/

namespace Maquette

open Dart (Glyph Legible Plain plain_ofList chars blankGlyphs literals erase brackets)

namespace Document

theorem tidy_widgetClass {name : String} {body : List Dart.Statement}
    (hname : Plain ("class " ++ name ++ " extends StatelessWidget")) (hbody : Dart.TidyBody body) :
    Dart.TidyBody [widgetClass name body] := by
  have hoverride : Plain "@override" := plain_ofList (by decide)
  have hbuild : Plain "Widget build(BuildContext context)" := plain_ofList (by decide)
  exact ⟨hname, ⟨hoverride.legible_line, hbuild, hbody, trivial⟩, trivial⟩

theorem plain_schemeCode {seed : String} (h : Plain seed) : Plain (schemeCode seed) :=
  h.wrapped (by decide)

theorem tidy_appBody (appName : Json) (palette : Palette) :
    Dart.TidyBody (appBody appName palette) := by
  have hscheme := plain_schemeCode palette.seed.plain_code
  simp only [appBody, Dart.TidyBody, Dart.Expr.Tidy, Dart.TidyArguments, hscheme, Color.plain_code,
    true_and, and_true]
  and_intros <;> exact plain_ofList (by decide)

theorem tidy_front {app : List Dart.Statement} (h : Dart.TidyBody app) :
    Dart.TidyBody (front app) := by
  have himport := Dart.legible_line_ofList
    (s := "import 'package:flutter/material.dart';".toList) (by decide)
  have hrun : Plain "runApp(MyApp());" := plain_ofList (by decide)
  have hmain : Plain "void main()" := plain_ofList (by decide)
  have happ : Plain ("class " ++ "MyApp" ++ " extends StatelessWidget") :=
    ((plain_ofList (by decide)).append (plain_ofList (by decide))).append (plain_ofList (by decide))
  have hclass := tidy_widgetClass happ h
  exact ⟨himport, hmain, ⟨hrun.legible_line, trivial⟩, hclass.1, hclass.2.1, trivial⟩

theorem tidy_appBar (h : Header) : (appBar h).Tidy := by
  have hbar : Plain "AppBar" := plain_ofList (by decide)
  refine ⟨hbar, Dart.tidyArguments_append (Dart.tidyArguments_append ?_ ?_) ?_⟩
  · simp only [Dart.Expr.Tidy, Dart.TidyArguments, Binary64.plain_literal, FontSize.plain_code,
      Color.plain_code, true_and, and_true]
    and_intros <;> exact plain_ofList (by decide)
  · cases h.showsBack with
    | false => exact trivial
    | true =>
      simp only [if_true, Dart.Expr.Tidy, Dart.TidyArguments, and_true]
      and_intros <;> exact plain_ofList (by decide)
  · cases h.showsMenu with
    | false => exact trivial
    | true =>
      simp only [if_true, Dart.Expr.Tidy, Dart.TidyArguments, Dart.TidyItems, and_true]
      and_intros <;> exact plain_ofList (by decide)

theorem tidy_pageArguments (header : Option Header) (palette : Palette) :
    Dart.TidyArguments (pageArguments header palette) := by
  have hbar : Plain "appBar" := plain_ofList (by decide)
  have hbackground : Plain "backgroundColor" := plain_ofList (by decide)
  refine Dart.tidyArguments_append ?_ ⟨hbackground, palette.scaffold.plain_code, trivial⟩
  cases header with
  | none => exact trivial
  | some h => exact ⟨hbar, tidy_appBar h, trivial⟩

theorem plain_scale (name axis : String) (hname : Plain name) (haxis : Plain axis)
    (side : Binary64) :
    Plain ("final double " ++ name ++ axis ++ side.fractionLiteral ++ ";") :=
  ((((plain_ofList (by decide)).append hname).append haxis).append
    side.plain_fractionLiteral).append (plain_ofList (by decide))

theorem plain_scaleAcross :
    Plain ("final double " ++ Basis.scaleAcross ++ " = constraints.maxWidth / " ++
      Basis.referenceWidth.fractionLiteral ++ ";") :=
  plain_scale _ _ (plain_ofList (by decide)) (plain_ofList (by decide)) _

theorem plain_scaleDown :
    Plain ("final double " ++ Basis.scaleDown ++ " = constraints.maxHeight / " ++
      Basis.referenceHeight.fractionLiteral ++ ";") :=
  plain_scale _ _ (plain_ofList (by decide)) (plain_ofList (by decide)) _

theorem tidy_scales (usesFrame : Bool) :
    Dart.TidyBody (if usesFrame then scales else []) := by
  cases usesFrame with
  | false => exact trivial
  | true =>
    exact ⟨plain_scaleAcross.legible_line, plain_scaleDown.legible_line, trivial⟩

/-- What a scan finds in the code in front of the rows. -/
def openingGlyphs (appName : Json) (header : Option Header) (palette : Palette)
    (usesFrame : Bool) : List Glyph :=
  Dart.bodyGlyphs 0 (front (appBody appName palette)) ++ chars pageHead.toList ++
    Dart.argumentGlyphs 6 (pageArguments header palette) ++ chars builderHead.toList ++
    Dart.bodyGlyphs 12 (if usesFrame then scales else []) ++ chars stackHead.toList

/-- The brackets of the page: those of its class, of the function that builds it,
and of the call of its frame. -/
def pagePending : List Char := [')', '\x7d', '\x7d']

/-- The brackets of the function that builds the stack, and those of the page. -/
def builderPending : List Char := ['\x7d', ')', ')'] ++ pagePending

/-- The brackets around the rows. -/
def rowPending : List Char := [']', ')'] ++ builderPending

theorem opens_pageHead : Dart.Opens pageHead [] pagePending := by
  have hclass : Dart.Opens "class HomeScreen extends StatelessWidget \x7b\n" [] ['\x7d'] :=
    Dart.opens_ofList (by decide)
  have hoverride : Dart.Opens "  @override\n" ['\x7d'] ['\x7d'] := Dart.opens_ofList (by decide)
  have hbuild : Dart.Opens "  Widget build(BuildContext context) \x7b\n" ['\x7d']
    ['\x7d', '\x7d'] := Dart.opens_ofList (by decide)
  have hreturn : Dart.Opens "    return Scaffold(\n" ['\x7d', '\x7d'] pagePending :=
    Dart.opens_ofList (by decide)
  exact ((hclass.append hoverride).append hbuild).append hreturn

theorem opens_builderHead : Dart.Opens builderHead pagePending builderPending := by
  have harea : Dart.Opens "      body: SafeArea(\n" pagePending ([')'] ++ pagePending) :=
    Dart.opens_ofList (by decide)
  have hlayout : Dart.Opens "        child: LayoutBuilder(\n" ([')'] ++ pagePending)
    ([')', ')'] ++ pagePending) := Dart.opens_ofList (by decide)
  have hbuilder : Dart.Opens "          builder: (context, constraints) \x7b\n"
    ([')', ')'] ++ pagePending) builderPending := Dart.opens_ofList (by decide)
  exact (harea.append hlayout).append hbuilder

theorem opens_stackHead : Dart.Opens stackHead builderPending rowPending := by
  have hstack : Dart.Opens "            return Stack(\n" builderPending
    ([')'] ++ builderPending) := Dart.opens_ofList (by decide)
  have hfit : Dart.Opens "              fit: StackFit.expand,\n" ([')'] ++ builderPending)
    ([')'] ++ builderPending) := Dart.opens_ofList (by decide)
  have hclip : Dart.Opens "              clipBehavior: Clip.none,\n" ([')'] ++ builderPending)
    ([')'] ++ builderPending) := Dart.opens_ofList (by decide)
  have hchildren : Dart.Opens "              children: [\n" ([')'] ++ builderPending) rowPending :=
    Dart.opens_ofList (by decide)
  exact ((hstack.append hfit).append hclip).append hchildren

theorem opens_closing : Dart.Opens closing rowPending [] := by
  have hrows : Dart.Opens "              ],\n" rowPending ([')'] ++ builderPending) :=
    Dart.opens_ofList (by decide)
  have hstack : Dart.Opens "            );\n" ([')'] ++ builderPending) builderPending :=
    Dart.opens_ofList (by decide)
  have hbuilder : Dart.Opens "          \x7d,\n" builderPending ([')', ')'] ++ pagePending) :=
    Dart.opens_ofList (by decide)
  have hlayout : Dart.Opens "        ),\n" ([')', ')'] ++ pagePending) ([')'] ++ pagePending) :=
    Dart.opens_ofList (by decide)
  have harea : Dart.Opens "      ),\n" ([')'] ++ pagePending) pagePending :=
    Dart.opens_ofList (by decide)
  have hpage : Dart.Opens "    );\n" pagePending ['\x7d', '\x7d'] :=
    Dart.opens_ofList (by decide)
  have hbuild : Dart.Opens "  \x7d\n" ['\x7d', '\x7d'] ['\x7d'] := Dart.opens_ofList (by decide)
  have hclass : Dart.Opens "\x7d\n" ['\x7d'] [] := Dart.opens_ofList (by decide)
  exact ((((((hrows.append hstack).append hbuilder).append hlayout).append harea).append
    hpage).append hbuild).append hclass

section Opening

variable (appName : Json) (header : Option Header) (palette : Palette) (usesFrame : Bool)

theorem written_openingGlyphs :
    Dart.written (openingGlyphs appName header palette usesFrame) =
      (opening appName header palette usesFrame).toList := by
  have hfront := (Dart.legible_printBody 0 _ (tidy_front (tidy_appBody appName palette))).written_eq
  have hpage := (Dart.legible_printArguments 6 _ (tidy_pageArguments header palette)).written_eq
  have hscales := (Dart.legible_printBody 12 _ (tidy_scales usesFrame)).written_eq
  rw [openingGlyphs, opening, Dart.written_append, Dart.written_append, Dart.written_append,
    Dart.written_append, Dart.written_append, hfront, hpage, hscales, Dart.written_chars,
    Dart.written_chars, Dart.written_chars, String.toList_append, String.toList_append,
    String.toList_append, String.toList_append, String.toList_append]

theorem wellFormed_openingGlyphs :
    Dart.wellFormed (openingGlyphs appName header palette usesFrame) = true := by
  have hfront := (Dart.legible_printBody 0 _ (tidy_front (tidy_appBody appName palette))).wellFormed
  have hpage := (Dart.legible_printArguments 6 _ (tidy_pageArguments header palette)).wellFormed
  have hscales := (Dart.legible_printBody 12 _ (tidy_scales usesFrame)).wellFormed
  have hbefore := Dart.wellFormed_append (Dart.wellFormed_append hfront opens_pageHead.wellFormed)
    hpage
  exact Dart.wellFormed_append (Dart.wellFormed_append
    (Dart.wellFormed_append hbefore opens_builderHead.wellFormed) hscales)
    opens_stackHead.wellFormed

theorem brackets_openingGlyphs :
    brackets [] (openingGlyphs appName header palette usesFrame) = some rowPending := by
  have hfront := (Dart.legible_printBody 0 _ (tidy_front (tidy_appBody appName palette))).closed
  have hpage := (Dart.legible_printArguments 6 _ (tidy_pageArguments header palette)).closed
  have hscales := (Dart.legible_printBody 12 _ (tidy_scales usesFrame)).closed
  rw [openingGlyphs, Dart.brackets_append, Dart.brackets_append, Dart.brackets_append,
    Dart.brackets_append, Dart.brackets_append, hfront, Option.bind_some,
    opens_pageHead.brackets_eq, Option.bind_some, hpage, Option.bind_some,
    opens_builderHead.brackets_eq, Option.bind_some, hscales, Option.bind_some,
    opens_stackHead.brackets_eq]

end Opening

theorem hasPlainGlyph_of_mem {cs : List Component} {read : List (Widget × Geometry)}
    (h : cs.mapM Component.reading = .ok read) : ∀ row ∈ read, row.1.HasPlainGlyph := by
  intro row hrow
  obtain ⟨c, -, hc⟩ := exists_of_mem_mapM h hrow
  exact Widget.hasPlainGlyph_of_ofComponent (Component.of_reading_eq_ok hc).1

/-- What a scan finds in the rows. -/
def rowGlyphs (read : List (Widget × Geometry)) : List Glyph :=
  read.flatMap fun row => row.1.rowGlyphs row.2 stackLevel ++ chars [',', '\n']

theorem legible_rowLines {read : List (Widget × Geometry)}
    (h : ∀ row ∈ read, row.1.HasPlainGlyph) :
    Legible (Dart.rowLines (rowsOf read)).toList (rowGlyphs read) := by
  induction read with
  | nil => exact Legible.nil
  | cons row read ih =>
    have hrow := Widget.legible_rowOf (h row List.mem_cons_self) row.2 stackLevel
    have hrest := ih fun row hrow => h row (List.mem_cons_of_mem _ hrow)
    simpa [rowsOf, rowGlyphs, Dart.rowLines] using (hrow.append Legible.comma).append hrest

/-- What a scan finds in a document. -/
def glyphsOf (appName : Json) (header : Option Header) (background : String)
    (read : List (Widget × Geometry)) : List Glyph :=
  openingGlyphs appName header (paletteOf header background) (read.any (·.2.usesFrame)) ++
    rowGlyphs read ++ chars closing.toList

theorem legible_codeOf (appName : Json) (header : Option Header) (background : String)
    {read : List (Widget × Geometry)} (h : ∀ row ∈ read, row.1.HasPlainGlyph) :
    Legible (codeOf appName header background read).toList
      (glyphsOf appName header background read) := by
  have hrows := legible_rowLines h
  have hbrackets : brackets [] (glyphsOf appName header background read) = some [] := by
    rw [glyphsOf, Dart.brackets_append, Dart.brackets_append, brackets_openingGlyphs,
      Option.bind_some, hrows.closed, Option.bind_some, opens_closing.brackets_eq]
  refine ⟨?_, ?_, Dart.brackets_eq_of_balanced hbrackets⟩
  · rw [glyphsOf, codeOf, Dart.written_append, Dart.written_append, written_openingGlyphs,
      hrows.written_eq, Dart.written_chars, String.toList_append, String.toList_append]
  · exact Dart.wellFormed_append (Dart.wellFormed_append
      (wellFormed_openingGlyphs appName header _ _) hrows.wellFormed) opens_closing.wellFormed

theorem tidy_welcomeApp (name : String) : Dart.TidyBody (welcomeApp name) := by
  have hscheme : Plain (schemeCode "Colors.grey") := plain_schemeCode (plain_ofList (by decide))
  simp only [welcomeApp, Dart.TidyBody, Dart.Expr.Tidy, Dart.TidyArguments, hscheme, true_and,
    and_true]
  and_intros <;> exact plain_ofList (by decide)

theorem tidy_welcomeHome (name : String) : Dart.TidyBody (welcomeHome name) := by
  simp only [welcomeHome, Dart.TidyBody, Dart.Expr.Tidy, Dart.TidyArguments, Dart.TidyItems,
    true_and, and_true]
  and_intros <;> exact plain_ofList (by decide)

/-- What a scan finds in the page that welcomes its reader. -/
def welcomeGlyphs (name : String) : List Glyph :=
  Dart.bodyGlyphs 0 (program (welcomeApp name) (welcomeHome name))

theorem legible_welcomeCode (appName : Json) :
    Legible (welcomeCode appName).toList (welcomeGlyphs (displayName appName)) := by
  have hhome : Plain ("class " ++ "HomeScreen" ++ " extends StatelessWidget") :=
    ((plain_ofList (by decide)).append (plain_ofList (by decide))).append (plain_ofList (by decide))
  refine Dart.legible_printBody 0 _ ?_
  rw [program_eq]
  exact Dart.tidyBody_append (tidy_front (tidy_welcomeApp _))
    (tidy_widgetClass hhome (tidy_welcomeHome _))

end Document

end Maquette
