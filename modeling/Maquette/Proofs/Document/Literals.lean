import Maquette.Proofs.Document.Legible
import Maquette.Proofs.Document.Readable
import Maquette.Proofs.Widget.Shown

/-!
# Literals read as what is displayed

The literals of a document are the texts that its screen shows, in order. A text on
the stack is in code that was moved line by line, and a character that ends a line
without ending a literal lets the margin of the next line into the text. So a text on
the stack is displayed as it was saved exactly if it has no such character, and every
other text always is.
-/

namespace Maquette

open Dart (literals chars)

namespace Header

/-- The title that a header component shows. -/
def shownTitle (appName : Json) (c : Component) : String :=
  (Json.firstPresent [c.props.get "appTitle", appName] (.string defaultAppName)).display

theorem title_of_ofComponent {appName : Json} {c : Component} {h : Header}
    (hread : ofComponent appName c = .ok h) : h.title = shownTitle appName c := by
  obtain ⟨titleSize, -, hread⟩ := exists_of_bind_eq_ok hread
  obtain ⟨height, -, hread⟩ := exists_of_bind_eq_ok hread
  obtain rfl := Except.ok.inj hread
  rfl

end Header

theorem Dart.literals_lineGlyphs_of_plain {text : String} (h : Dart.Plain text) :
    literals (Dart.lineGlyphs text) = [] := by
  rw [h.lineGlyphs_eq, Dart.literals_chars]

theorem Dart.bodyTexts_append (column : Nat) (body more : List Dart.Statement) :
    Dart.bodyTexts column (body ++ more) =
      Dart.bodyTexts column body ++ Dart.bodyTexts column more := by
  induction body with
  | nil => rfl
  | cons statement rest ih => cases statement <;> simp [Dart.bodyTexts, ih]

/-- A literal stands in the code as a whole. -/
theorem Dart.infix_written_of_mem_literals {gs : List Dart.Glyph} {value : List Char}
    (hvalue : value ∈ literals gs) : Dart.quotedChars value <:+: Dart.written gs := by
  obtain ⟨glyph, hglyph, hliteral⟩ := List.mem_filterMap.1 hvalue
  obtain ⟨front, rest, rfl⟩ := List.append_of_mem hglyph
  cases glyph with
  | literal found =>
    obtain rfl := Option.some.inj hliteral
    exact ⟨Dart.written front, Dart.written rest, by simp [Dart.written, Dart.Glyph.text]⟩
  | char d => cases hliteral
  | comment text => cases hliteral

namespace Document

theorem texts_appBar (bar : Header) (column : Nat) :
    (appBar bar).texts column = [bar.title.toList] := by
  rcases bar with ⟨title, background, color, height, size, _ | _, _ | _⟩ <;> rfl

theorem texts_widgetClass (name : String) (body rest : List Dart.Statement) :
    Dart.bodyTexts 0 (widgetClass name body :: rest) =
      Dart.bodyTexts 4 body ++ Dart.bodyTexts 0 rest := by
  have hoverride : literals (Dart.lineGlyphs "@override") = [] :=
    Dart.literals_lineGlyphs_of_plain (Dart.plain_ofList (by decide))
  simp [widgetClass, Dart.bodyTexts, hoverride]

theorem texts_front (app : List Dart.Statement) :
    Dart.bodyTexts 0 (front app) =
      "package:flutter/material.dart".toList :: Dart.bodyTexts 4 app := by
  have himport : literals (Dart.lineGlyphs "import 'package:flutter/material.dart';") =
      ["package:flutter/material.dart".toList] := by decide
  have hrun : literals (Dart.lineGlyphs "runApp(MyApp());") = [] :=
    Dart.literals_lineGlyphs_of_plain (Dart.plain_ofList (by decide))
  simp [front, texts_widgetClass, Dart.bodyTexts, himport, hrun]

theorem texts_appBody (appName : Json) (palette : Palette) :
    Dart.bodyTexts 4 (appBody appName palette) = [(displayName appName).toList] := rfl

theorem texts_pageArguments (header : Option Header) (palette : Palette) :
    Dart.argumentTexts 6 (pageArguments header palette) =
      header.toList.map fun bar => bar.title.toList := by
  cases header with
  | none => rfl
  | some bar =>
    change (appBar bar).texts 6 ++ [] = [bar.title.toList]
    rw [texts_appBar, List.append_nil]

theorem texts_scales (usesFrame : Bool) :
    Dart.bodyTexts 12 (if usesFrame then scales else []) = [] := by
  cases usesFrame with
  | false => rfl
  | true =>
    have hacross := Dart.literals_lineGlyphs_of_plain plain_scaleAcross
    have hdown := Dart.literals_lineGlyphs_of_plain plain_scaleDown
    rw [if_pos rfl, scales, Dart.bodyTexts, Dart.bodyTexts, hacross, hdown]
    rfl

theorem literals_openingGlyphs (appName : Json) (header : Option Header) (palette : Palette)
    (usesFrame : Bool) :
    literals (openingGlyphs appName header palette usesFrame) =
      "package:flutter/material.dart".toList :: (displayName appName).toList ::
        header.toList.map fun bar => bar.title.toList := by
  rw [openingGlyphs, Dart.literals_append, Dart.literals_append, Dart.literals_append,
    Dart.literals_append, Dart.literals_append, Dart.literals_bodyGlyphs, texts_front,
    texts_appBody, Dart.literals_chars, Dart.literals_argumentGlyphs, texts_pageArguments,
    Dart.literals_chars, Dart.literals_bodyGlyphs, texts_scales, Dart.literals_chars]
  simp only [List.append_nil, List.cons_append, List.nil_append]

theorem literals_rowGlyphs_eq_flatMap (read : List (Widget × Geometry)) :
    literals (rowGlyphs read) =
      read.flatMap fun row => literals (row.1.rowGlyphs row.2 stackLevel) := by
  induction read with
  | nil => rfl
  | cons row read ih =>
    rw [rowGlyphs] at ih ⊢
    rw [List.flatMap_cons, Dart.literals_append, Dart.literals_append, Dart.literals_chars,
      List.append_nil, ih, List.flatMap_cons]

theorem literals_rowGlyphs {cs : List Component} {read : List (Widget × Geometry)}
    (h : cs.mapM Component.reading = .ok read) :
    literals (rowGlyphs read) = cs.flatMap fun c => c.shownTexts.map fun text =>
      Text.reflow (Text.levelMargin (stackLevel + 1) + c.depth) text.toList := by
  have hrow (c : Component) (_ : c ∈ cs) (row : Widget × Geometry) (hrow : c.reading = .ok row) :
      literals (row.1.rowGlyphs row.2 stackLevel) = c.shownTexts.map fun text =>
        Text.reflow (Text.levelMargin (stackLevel + 1) + c.depth) text.toList := by
    obtain ⟨htexts, hdepth⟩ := Widget.texts_eq_and_depth_eq (Component.of_reading_eq_ok hrow).1
    rw [Widget.literals_rowGlyphs, htexts, hdepth]
  have hrows := map_eq_of_mapM_eq_ok hrow h
  rw [literals_rowGlyphs_eq_flatMap, List.flatMap_def, hrows, ← List.flatMap_def]

theorem literals_welcomeGlyphs (name : String) :
    literals (welcomeGlyphs name) = ["package:flutter/material.dart".toList, name.toList,
      name.toList, ("Welcome to " ++ name ++ "!").toList, "Your app is ready to use".toList] := by
  have happ : Dart.bodyTexts 4 (welcomeApp name) = [name.toList] := rfl
  have hhome : Dart.bodyTexts 4 (welcomeHome name) = [name.toList,
      ("Welcome to " ++ name ++ "!").toList, "Your app is ready to use".toList] := rfl
  rw [welcomeGlyphs, Dart.literals_bodyGlyphs, program_eq, Dart.bodyTexts_append, texts_front, happ,
    texts_widgetClass, hhome, Dart.bodyTexts]
  rfl

end Document

/-- The texts that the document of a screen shows, in order, each with how far the
code around it was moved as a finished text. -/
def Screen.shownTexts (appName : Json) (s : Screen) : List (Nat × String) :=
  let name := Document.displayName appName
  let margin := Text.levelMargin (Document.stackLevel + 1)
  if s.components.isEmpty then
    [(0, "package:flutter/material.dart"), (0, name), (0, name),
      (0, "Welcome to " ++ name ++ "!"), (0, "Your app is ready to use")]
  else
    [(0, "package:flutter/material.dart"), (0, name)] ++
    (s.components.find? Component.isHeader).toList.map
      (fun header => (0, Header.shownTitle appName header)) ++
    (s.components.filter (!·.isHeader)).flatMap
      (fun c => c.shownTexts.map fun text => (margin + c.depth, text))

namespace Document

theorem map_title_header? {appName : Json} {components : List Component} {header : Option Header}
    (h : (Arrangement.ofComponents components).header? appName = .ok header) :
    header.toList.map (fun bar => bar.title.toList) =
      (components.find? Component.isHeader).toList.map
        fun first => (Header.shownTitle appName first).toList := by
  obtain ⟨hfirst, rfl⟩ | ⟨first, bar, hfirst, hbar, rfl⟩ := Arrangement.cases_of_header? h
  · rw [hfirst]
    rfl
  · rw [hfirst, Option.toList_some, Option.toList_some, List.map_cons, List.map_cons,
      Header.title_of_ofComponent hbar]
    rfl

/-- The literals of a document are the texts of its screen, in order, reflowed by as
much as the code around them was moved. -/
theorem exists_legible_literals {appName : Json} {screen : Screen} {document : Document}
    (h : ofScreen appName screen = .ok document) :
    ∃ glyphs, Dart.Legible document.code.toList glyphs ∧
      literals glyphs = (screen.shownTexts appName).map
        fun shown => Text.reflow shown.1 shown.2.toList := by
  cases hcomponents : screen.components.isEmpty with
  | true =>
    rw [ofScreen, if_pos hcomponents] at h
    obtain rfl := Except.ok.inj h
    refine ⟨_, legible_welcomeCode appName, ?_⟩
    rw [literals_welcomeGlyphs, Screen.shownTexts, if_pos hcomponents]
    simp only [List.map_cons, List.map_nil, Text.reflow_zero]
  | false =>
    obtain ⟨header, read, hheader, hread, hcompiled⟩ := exists_of_ofScreen_eq_ok hcomponents h
    obtain rfl := hcompiled
    refine ⟨_, legible_codeOf appName header screen.background (hasPlainGlyph_of_mem hread), ?_⟩
    rw [glyphsOf, Dart.literals_append, Dart.literals_append, literals_openingGlyphs,
      map_title_header? hheader, literals_rowGlyphs hread, Dart.literals_chars,
      Screen.shownTexts, if_neg (by simp [hcomponents])]
    simp [Arrangement.ofComponents, List.map_flatMap, Function.comp_def]

theorem exists_literals_eq {appName : Json} {screen : Screen} {document : Document}
    (h : ofScreen appName screen = .ok document) :
    ∃ glyphs, Dart.lex document.code.toList = some glyphs ∧
      literals glyphs = (screen.shownTexts appName).map
        fun shown => Text.reflow shown.1 shown.2.toList := by
  obtain ⟨glyphs, hlegible, hliterals⟩ := exists_legible_literals h
  exact ⟨glyphs, hlegible.lex_eq, hliterals⟩

/-- A text that a screen shows stands in the code as a literal. -/
theorem infix_code_of_mem_shownTexts {appName : Json} {screen : Screen} {document : Document}
    (h : ofScreen appName screen = .ok document) {margin : Nat} {text : String}
    (htext : (margin, text) ∈ screen.shownTexts appName) :
    Dart.quotedChars (Text.reflow margin text.toList) <:+: document.code.toList := by
  obtain ⟨glyphs, hlegible, hliterals⟩ := exists_legible_literals h
  have hliteral : Text.reflow margin text.toList ∈ literals glyphs := by
    rw [hliterals]
    exact List.mem_map_of_mem htext
  rw [← hlegible.written_eq]
  exact Dart.infix_written_of_mem_literals hliteral

/-- Every text of a screen has a literal of its own in the document, in order. The
literal reads as the text that was saved unless the code around it was moved and the
text has a character that ends a line without ending a literal. -/
theorem literal_eq_text_iff (appName value : Json) {document : Document}
    (h : ofValue appName value = .ok document) :
    let shown := (Screen.ofValue value).shownTexts appName
    ∃ glyphs, Dart.lex document.code.toList = some glyphs ∧
      (literals glyphs).length = shown.length ∧
      ∀ (i : Nat) (margin : Nat) (text : String), shown[i]? = some (margin, text) →
        ((literals glyphs)[i]? = some text.toList ↔
          margin = 0 ∨ text.toList.all (fun c => !Text.isSoftBreak c) = true) := by
  intro shown
  obtain ⟨glyphs, hlex, hliterals⟩ := exists_literals_eq h
  refine ⟨glyphs, hlex, ?_, ?_⟩
  · rw [hliterals, List.length_map]
  · intro i margin text htext
    rw [hliterals, List.getElem?_map, htext, Option.map_some, Option.some_inj]
    rcases Nat.eq_zero_or_pos margin with rfl | hmargin
    · simp
    · rw [Text.reflow_eq_iff hmargin]
      constructor
      · exact Or.inr
      · rintro (rfl | hall)
        · exact absurd hmargin (Nat.lt_irrefl 0)
        · exact hall

/-- Quotation marks, dollar signs and line feeds are displayed as they were saved. -/
theorem literal_quotedText :
    ∃ document glyphs, ofValue (.string "App") (oneText "It's\n$5") = .ok document ∧
      Dart.lex document.code.toList = some glyphs ∧
      (literals glyphs)[2]? = some "It's\n$5".toList := by
  have hshown : ((Screen.ofValue (oneText "It's\n$5")).shownTexts (.string "App"))[2]? =
      some (18, "It's\n$5") := by decide
  obtain ⟨document, hdocument⟩ :=
    exists_of_isReadable (.string "App") (oneText "It's\n$5") (by decide)
  obtain ⟨glyphs, hglyphs, -, htexts⟩ :=
    literal_eq_text_iff (.string "App") (oneText "It's\n$5") hdocument
  exact ⟨document, glyphs, hdocument, hglyphs, (htexts 2 18 _ hshown).2 (.inr (by decide))⟩

/-- A line separator is not: the margin of the line that it begins is displayed too. -/
theorem lineSeparator_not_mem_literals :
    ∃ document glyphs, ofValue (.string "App") (oneText "a\u2028b") = .ok document ∧
      Dart.lex document.code.toList = some glyphs ∧ "a\u2028b".toList ∉ literals glyphs := by
  have hshown : (Screen.ofValue (oneText "a\u2028b")).shownTexts (.string "App") =
      [(0, "package:flutter/material.dart"), (0, "App"), (18, "a\u2028b")] := by decide
  obtain ⟨document, hdocument⟩ :=
    exists_of_isReadable (.string "App") (oneText "a\u2028b") (by decide)
  obtain ⟨glyphs, hglyphs, hliterals⟩ := exists_literals_eq hdocument
  refine ⟨document, glyphs, hdocument, hglyphs, ?_⟩
  rw [hliterals, hshown]
  decide

end Document

end Maquette
