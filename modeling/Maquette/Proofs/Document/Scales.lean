import Maquette.Proofs.Document.Legible
import Maquette.Proofs.Document.Readable
import Maquette.Proofs.Emission.Names

/-!
# The scales are declared where they are used

The scales of the reference frame are declared in the block that returns the stack, and
named in the arguments that position the widgets on it. The code in front of the
declarations names neither, the rows name both or neither, and the flag of the run tells
which. So no document names a scale that it does not declare, and none declares a scale
that it does not name.
-/

namespace Maquette

open Dart (Glyph names chars Free)

namespace Dart

/-- The doubles that some code declares and never changes, by the names in the code. -/
def declared : List String → List String
  | first :: second :: name :: rest =>
    if first = "final" ∧ second = "double" then name :: declared rest
    else declared (second :: name :: rest)
  | _ => []

theorem declared_append {before : List String} (h : "final" ∉ before) (rest : List String) :
    declared (before ++ rest) = declared rest := by
  induction before with
  | nil => rfl
  | cons name before ih =>
    rw [List.mem_cons, not_or] at h
    rw [← ih h.2, List.cons_append]
    rcases before ++ rest with _ | ⟨second, _ | ⟨third, more⟩⟩
    · rfl
    · rfl
    · rw [declared, if_neg fun hfinal => h.1 hfinal.1.symm]

theorem declared_eq_nil {ns : List String} (h : "final" ∉ ns) : declared ns = [] := by
  rw [← List.append_nil ns, declared_append h]
  rfl

theorem declared_declaration (name : String) (rest : List String) :
    declared ("final" :: "double" :: name :: rest) = name :: declared rest := by
  rw [declared, if_pos ⟨rfl, rfl⟩]

theorem wholeLines_chars {s : List Char} (h : s.getLast? = some '\n') : WholeLines (chars s) := by
  obtain ⟨line, rfl⟩ := List.getLast?_eq_some_iff.1 h
  rw [chars_append]
  exact WholeLines.newline _

end Dart

namespace Document

/-- The names of all rows, in order. -/
def rowNames (read : List (Widget × Geometry)) : List String :=
  read.flatMap fun row => names (row.1.rowGlyphs row.2 stackLevel)

/-- What one row keeps, all of them keep. -/
theorem stackNames_rowNames {read : List (Widget × Geometry)}
    (h : ∀ row ∈ read, ∃ c, Widget.ofComponent c = .ok row.1 ∧ Geometry.ofComponent c = .ok row.2) :
    StackNames (rowNames read) (read.any (·.2.usesFrame)) := by
  induction read with
  | nil => exact StackNames.nil
  | cons row read ih =>
    obtain ⟨c, hw, hg⟩ := h row List.mem_cons_self
    have hrest := ih fun row hrow => h row (List.mem_cons_of_mem _ hrow)
    exact hrest.cons hw hg stackLevel

theorem names_rowGlyphs_append (read : List (Widget × Geometry)) (gs : List Glyph) :
    names (rowGlyphs read ++ gs) = rowNames read ++ names gs := by
  induction read with
  | nil => rfl
  | cons row read ih =>
    have hcomma (hs : List Glyph) : chars [',', '\n'] ++ hs = .char ',' :: .char '\n' :: hs := rfl
    rw [rowGlyphs, rowNames] at ih ⊢
    rw [List.flatMap_cons, List.flatMap_cons, List.append_assoc, List.append_assoc, hcomma,
      Dart.names_append_cons (by decide), Dart.names_cons (by decide), ih, List.append_assoc]

theorem free_schemeCode {seed : String} (h : Free scopeNames (chars seed.toList)) :
    Free scopeNames (chars (schemeCode seed).toList) :=
  (h.prefixed (by decide)).suffixed (by decide)

theorem avoids_appBody (appName : Json) (palette : Palette) :
    Dart.BodyAvoids scopeNames (appBody appName palette) := by
  have hscheme := free_schemeCode palette.seed.free_code
  simp only [appBody, Dart.BodyAvoids, Dart.Expr.Avoids, Dart.ArgumentsAvoid, hscheme,
    Color.free_code, true_and, and_true]
  decide

theorem avoids_front {app : List Dart.Statement} (h : Dart.BodyAvoids scopeNames app) :
    Dart.BodyAvoids scopeNames (front app) := by
  have himport : Free scopeNames (Dart.lineGlyphs "import 'package:flutter/material.dart';") := by
    decide
  have hrun : Free scopeNames (Dart.lineGlyphs "runApp(MyApp());") := by decide
  have hoverride : Free scopeNames (Dart.lineGlyphs "@override") := by decide
  have hclass : Free scopeNames (chars ("class " ++ "MyApp" ++ " extends StatelessWidget").toList) := by
    decide
  simp only [front, widgetClass, Dart.BodyAvoids, himport, hrun, hoverride, hclass, h, true_and,
    and_true]
  decide

theorem avoids_appBar (h : Header) : (appBar h).Avoids scopeNames := by
  have hbar : Free scopeNames (chars "AppBar".toList) := by decide
  refine ⟨hbar, Dart.argumentsAvoid_append (Dart.argumentsAvoid_append ?_ ?_) ?_⟩
  · simp only [Dart.Expr.Avoids, Dart.ArgumentsAvoid, Binary64.free_literal, FontSize.free_code,
      Color.free_code, true_and, and_true]
    decide
  · cases h.showsBack with
    | false => exact trivial
    | true =>
      simp only [if_true, Dart.Expr.Avoids, Dart.ArgumentsAvoid, and_true]
      decide
  · cases h.showsMenu with
    | false => exact trivial
    | true =>
      simp only [if_true, Dart.Expr.Avoids, Dart.ArgumentsAvoid, Dart.ItemsAvoid, and_true]
      decide

theorem avoid_pageArguments (header : Option Header) (palette : Palette) :
    Dart.ArgumentsAvoid scopeNames (pageArguments header palette) := by
  have hbar : Free scopeNames (chars "appBar".toList) := by decide
  have hbackground : Free scopeNames (chars "backgroundColor".toList) := by decide
  refine Dart.argumentsAvoid_append ?_ ⟨hbackground, palette.scaffold.free_code, trivial⟩
  cases header with
  | none => exact trivial
  | some h => exact ⟨hbar, avoids_appBar h, trivial⟩

/-- The text is whole lines that have none of the names. -/
def isFreeLines (s : List Char) : Bool :=
  s.getLast? == some '\n' && decide (Free scopeNames (chars s))

theorem wholeLines_of_isFreeLines {s : List Char} (h : isFreeLines s = true) :
    Dart.WholeLines (chars s) ∧ Free scopeNames (chars s) := by
  rw [isFreeLines, Bool.and_eq_true, beq_iff_eq, decide_eq_true_eq] at h
  exact ⟨Dart.wholeLines_chars h.1, h.2⟩

theorem isFreeLines_heads :
    isFreeLines pageHead.toList = true ∧ isFreeLines builderHead.toList = true := by
  decide +kernel

/-- What a scan finds in front of the declarations. -/
def outerGlyphs (appName : Json) (header : Option Header) (palette : Palette) : List Glyph :=
  Dart.bodyGlyphs 0 (front (appBody appName palette)) ++ chars pageHead.toList ++
    Dart.argumentGlyphs 6 (pageArguments header palette) ++ chars builderHead.toList

theorem wholeLines_outerGlyphs (appName : Json) (header : Option Header) (palette : Palette) :
    Dart.WholeLines (outerGlyphs appName header palette) :=
  (((Dart.wholeLines_bodyGlyphs _ _).append
    (wholeLines_of_isFreeLines isFreeLines_heads.1).1).append
    (Dart.wholeLines_argumentGlyphs _ _)).append
    (wholeLines_of_isFreeLines isFreeLines_heads.2).1

/-- The code in front of the declarations has none of the names. -/
theorem free_outerGlyphs (appName : Json) (header : Option Header) (palette : Palette) :
    Free scopeNames (outerGlyphs appName header palette) := by
  have hfront := Dart.free_bodyGlyphs (by decide) 0 _ (avoids_front (avoids_appBody appName palette))
  have hpage := Dart.free_argumentGlyphs (by decide) 6 _ (avoid_pageArguments header palette)
  obtain ⟨hpageLines, hpageHead⟩ := wholeLines_of_isFreeLines isFreeLines_heads.1
  obtain ⟨-, hbuilderHead⟩ := wholeLines_of_isFreeLines isFreeLines_heads.2
  have hlines := (Dart.wholeLines_bodyGlyphs 0 (front (appBody appName palette))).append hpageLines
  exact ((hfront.append (Dart.wholeLines_bodyGlyphs _ _) hpageHead).append hlines hpage).append
    (hlines.append (Dart.wholeLines_argumentGlyphs _ _)) hbuilderHead

/-- What a scan finds in the declarations. -/
def scaleGlyphs (usesFrame : Bool) : List Glyph :=
  Dart.bodyGlyphs 12 (if usesFrame then scales else [])

theorem names_scaleGlyphs (usesFrame : Bool) :
    names (scaleGlyphs usesFrame) = if usesFrame then
      ["final", "double", "sx", "constraints", "maxWidth", "360", "0",
        "final", "double", "sy", "constraints", "maxHeight", "720", "0"] else [] := by
  cases usesFrame with
  | false => rfl
  | true => decide +kernel

theorem declared_scaleGlyphs_append (usesFrame : Bool) {rest : List String} (h : "final" ∉ rest) :
    Dart.declared (names (scaleGlyphs usesFrame) ++ rest) = if usesFrame then scaleNames else [] := by
  rw [names_scaleGlyphs]
  cases usesFrame with
  | false => exact Dart.declared_eq_nil h
  | true =>
    change Dart.declared ("final" :: "double" :: "sx" :: (["constraints", "maxWidth", "360", "0"] ++
      "final" :: "double" :: "sy" :: (["constraints", "maxHeight", "720", "0"] ++ rest))) = _
    rw [Dart.declared_declaration, Dart.declared_append (by decide), Dart.declared_declaration,
      Dart.declared_append (by decide), Dart.declared_eq_nil h]
    rfl

/-- The declarations name each scale as often as they declare it. -/
theorem count_scaleGlyphs (usesFrame : Bool) :
    ∀ scale ∈ scaleNames, (names (scaleGlyphs usesFrame)).count scale =
      (if usesFrame then scaleNames else []).count scale := by
  rw [names_scaleGlyphs]
  cases usesFrame with
  | false => exact fun _ _ => rfl
  | true => decide

theorem wholeLines_scaleGlyphs (usesFrame : Bool) : Dart.WholeLines (scaleGlyphs usesFrame) :=
  Dart.wholeLines_bodyGlyphs _ _

/-- The declarations leave the brackets as they are. -/
theorem brackets_scaleGlyphs (usesFrame : Bool) (pending : List Char) :
    Dart.brackets pending (scaleGlyphs usesFrame) = some pending :=
  (Dart.legible_printBody 12 _ (tidy_scales usesFrame)).closed pending

/-- What a scan finds behind the declarations. -/
def stackGlyphs (read : List (Widget × Geometry)) : List Glyph :=
  chars stackHead.toList ++ (rowGlyphs read ++ chars closing.toList)

/-- The names in the head of the stack. -/
def stackNames : List String :=
  ["fit", "StackFit", "expand", "clipBehavior", "Clip", "none", "children"]

theorem names_stackGlyphs (read : List (Widget × Geometry)) :
    names (stackGlyphs read) = "return" :: "Stack" :: (stackNames ++ rowNames read) := by
  obtain ⟨hlines, hhead, hclosing⟩ : stackHead.toList.getLast? = some '\n' ∧
      names (chars stackHead.toList) = "return" :: "Stack" :: stackNames ∧
      names (chars closing.toList) = [] := by
    decide +kernel
  rw [stackGlyphs, Dart.names_append (Dart.wholeLines_chars hlines), hhead,
    names_rowGlyphs_append, hclosing, List.append_nil]
  rfl

theorem glyphsOf_eq (appName : Json) (header : Option Header) (background : String)
    (read : List (Widget × Geometry)) :
    glyphsOf appName header background read =
      outerGlyphs appName header (paletteOf header background) ++
        scaleGlyphs (read.any (·.2.usesFrame)) ++ stackGlyphs read := by
  simp only [glyphsOf, openingGlyphs, outerGlyphs, scaleGlyphs, stackGlyphs, List.append_assoc]

/-- The page that welcomes its reader stands in for screens without components only. -/
theorem isFallback_eq_isEmpty {appName : Json} {screen : Screen} {document : Document}
    (h : ofScreen appName screen = .ok document) :
    document.isFallback = screen.components.isEmpty := by
  cases hempty : screen.components.isEmpty with
  | true =>
    rw [ofScreen, if_pos hempty] at h
    rw [← Except.ok.inj h]
    rfl
  | false =>
    obtain ⟨_, _, -, -, hcompiled⟩ := exists_of_ofScreen_eq_ok hempty h
    rw [← hcompiled]
    rfl

/-- A document declares the scales of the reference frame, once each and directly in
front of the statement that returns its stack, exactly if a position on the stack names
one of them. Nothing in front of the declarations names a scale, the declarations only
name what they declare, and on the stack scales are named in positions only: so a scale
is declared exactly if the stack names it. -/
theorem declares_scales_iff_named (appName value : Json) {document : Document}
    (h : ofValue appName value = .ok document) (hcompiled : document.isFallback = false) :
    ∃ (outer declarations stack : List Glyph) (rest : List String),
      Dart.lex document.code.toList = some (outer ++ declarations ++ stack) ∧
      names (outer ++ declarations ++ stack) = names outer ++ names declarations ++ names stack ∧
      names stack = "return" :: "Stack" :: rest ∧ "Stack" ∉ rest ∧
      "Stack" ∉ names outer ++ names declarations ∧
      (∀ pending, Dart.brackets pending declarations = some pending) ∧
      Dart.declared (names (outer ++ declarations ++ stack)) = Dart.declared (names declarations) ∧
      Dart.declared (names declarations) =
        (if "sx" ∈ positionNames rest ∨ "sy" ∈ positionNames rest then ["sx", "sy"] else []) ∧
      ∀ scale ∈ ["sx", "sy"], scale ∉ names outer ∧
        (names declarations).count scale = (Dart.declared (names declarations)).count scale ∧
        (scale ∈ rest → scale ∈ positionNames rest) ∧
        (scale ∈ Dart.declared (names declarations) ↔ scale ∈ rest) := by
  have hnonempty : (Screen.ofValue value).components.isEmpty = false :=
    (isFallback_eq_isEmpty h).symm.trans hcompiled
  obtain ⟨header, read, -, hread, hdocument⟩ := exists_of_ofScreen_eq_ok hnonempty h
  obtain rfl := hdocument
  have hlex := (legible_codeOf appName header (Screen.ofValue value).background
    (hasPlainGlyph_of_mem hread)).lex_eq
  rw [glyphsOf_eq] at hlex
  have hrows := stackNames_rowNames fun row hrow => by
    obtain ⟨c, -, hc⟩ := exists_of_mem_mapM hread hrow
    exact ⟨c, Component.of_reading_eq_ok hc⟩
  have hstack := hrows.prefixed (by decide : ∀ name ∈ stackNames, name ∉ scopeNames)
  generalize read.any (·.2.usesFrame) = usesFrame at hlex hstack
  have houter := free_outerGlyphs appName header
    (paletteOf header (Screen.ofValue value).background)
  have hlines := wholeLines_outerGlyphs appName header
    (paletteOf header (Screen.ofValue value).background)
  generalize outerGlyphs appName header (paletteOf header (Screen.ofValue value).background) = outer
    at hlex houter hlines
  have hnames : names (outer ++ scaleGlyphs usesFrame ++ stackGlyphs read) =
      names outer ++ names (scaleGlyphs usesFrame) ++ names (stackGlyphs read) := by
    rw [Dart.names_append (hlines.append (wholeLines_scaleGlyphs usesFrame)),
      Dart.names_append hlines]
  have hdeclared : Dart.declared (names (scaleGlyphs usesFrame)) =
      if usesFrame then scaleNames else [] := by
    have h := declared_scaleGlyphs_append usesFrame (List.not_mem_nil (a := "final"))
    rwa [List.append_nil] at h
  have hused {scale : String} (hscale : scale ∈ scaleNames) :
      scale ∈ (if usesFrame then scaleNames else []) ↔ usesFrame = true := by
    cases usesFrame with
    | false => simp
    | true => simpa using hscale
  refine ⟨outer, scaleGlyphs usesFrame, stackGlyphs read, stackNames ++ rowNames read, hlex, hnames,
    names_stackGlyphs read, hstack.stack_not_mem, ?_, brackets_scaleGlyphs usesFrame, ?_, ?_, ?_⟩
  · rw [List.mem_append, not_or, names_scaleGlyphs]
    refine ⟨fun hmem => houter "Stack" hmem (by decide), ?_⟩
    cases usesFrame <;> decide
  · have hfinal : "final" ∉ names (stackGlyphs read) := by
      rw [names_stackGlyphs]
      simpa using hstack.final_not_mem
    rw [hnames, List.append_assoc,
      Dart.declared_append fun hmem => houter "final" hmem (by decide),
      declared_scaleGlyphs_append usesFrame hfinal, hdeclared]
  · have hsx := hstack.mem_positionNames_iff "sx" (by decide)
    have hsy := hstack.mem_positionNames_iff "sy" (by decide)
    rw [hdeclared]
    exact if_congr (by rw [hsx, hsy, or_self]) rfl rfl
  · intro scale hscale
    have hscale : scale ∈ scaleNames := hscale
    have hscope := (by decide : ∀ scale ∈ scaleNames, scale ∈ scopeNames) scale hscale
    have hpositions := hstack.mem_positionNames scale hscale
    refine ⟨fun hmem => houter scale hmem hscope, ?_, hpositions, ?_⟩
    · rw [hdeclared]
      exact count_scaleGlyphs usesFrame scale hscale
    · rw [hdeclared, hused hscale, ← hstack.mem_positionNames_iff scale hscale]
      exact ⟨mem_of_mem_positionNames, hpositions⟩

/-- A screen with a header, a component on fractions of the viewport, and two in the
reference frame, of which one has a text that reads like a declaration. -/
def mixedScreen : Json :=
  .object [("components", .array [
    .object [("type", .string "Text"), ("responsive", .object [("xPercent", .integer 0)])],
    .object [("type", .string "AppBar")],
    .object [("type", .string "Text"),
      ("props", .object [("text", .string "final double sx = 1; Positioned")])],
    .object [("type", .string "Button"), ("responsive", .object [("xPercent", .string "-")])]])]

theorem declares_scales_iff_named_mixedScreen :
    ∃ document outer declarations stack rest,
      ofValue (.string "App") mixedScreen = .ok document ∧
      Dart.lex document.code.toList = some (outer ++ declarations ++ stack) ∧
      names stack = "return" :: "Stack" :: rest ∧
      Dart.declared (names (outer ++ declarations ++ stack)) =
        (if "sx" ∈ positionNames rest ∨ "sy" ∈ positionNames rest then ["sx", "sy"] else []) := by
  have hcomponents : (Screen.ofValue mixedScreen).components.isEmpty = false := by decide
  obtain ⟨document, hdocument⟩ :=
    exists_of_isReadable (.string "App") mixedScreen (by decide +kernel)
  obtain ⟨outer, declarations, stack, rest, hlex, -, hstack, -, -, -, hall, hdeclared, -⟩ :=
    declares_scales_iff_named (.string "App") mixedScreen hdocument
      ((isFallback_eq_isEmpty hdocument).trans hcomponents)
  exact ⟨document, outer, declarations, stack, rest, hdocument, hlex, hstack,
    hall.trans hdeclared⟩

end Document

end Maquette
