import Maquette.Document
import Maquette.Proofs.Emission.Widget
import Maquette.Proofs.Outcome

/-!
# The parts of a document

The code of a screen is an opening, the rows of its stack, and a closing that is
the same for every screen. The opening depends on the app bar, the background and
the one flag of the run; no row is looked at again once it was emitted.
-/

namespace Maquette

namespace Dart

theorem printArguments_append (column : Nat) (arguments more : List Argument) :
    printArguments column (arguments ++ more) =
      printArguments column arguments ++ printArguments column more := by
  induction arguments with
  | nil => simp [printArguments]
  | cons argument rest ih =>
    cases argument with
    | positional value => simp [printArguments, ih, String.append_assoc]
    | named label value => simp [printArguments, ih, String.append_assoc]

theorem printBody_append (column : Nat) (body more : List Statement) :
    printBody column (body ++ more) = printBody column body ++ printBody column more := by
  induction body with
  | nil => simp [printBody]
  | cons statement rest ih =>
    cases statement with
    | line text => simp [printBody, ih, String.append_assoc]
    | result value => simp [printBody, ih, String.append_assoc]
    | block head inside => simp [printBody, ih, String.append_assoc]
    | gap => simp [printBody, ih, String.append_assoc]

end Dart

namespace Document

/-- The declarations in front of the page: the app and its theme. -/
def front (app : List Dart.Statement) : List Dart.Statement := [
  .line "import 'package:flutter/material.dart';",
  .gap,
  .block "void main()" [.line "runApp(MyApp());"],
  .gap,
  widgetClass "MyApp" app,
  .gap]

theorem program_eq (app home : List Dart.Statement) :
    program app home = front app ++ [widgetClass "HomeScreen" home] := rfl

/-- The code between the app and the arguments of the page. -/
def pageHead : String :=
  "class HomeScreen extends StatelessWidget \x7b\n" ++
  "  @override\n" ++
  "  Widget build(BuildContext context) \x7b\n" ++
  "    return Scaffold(\n"

/-- The arguments of the page in front of its body. -/
def pageArguments (header : Option Header) (palette : Palette) : List Dart.Argument :=
  (header.toList.map fun h => .named "appBar" (appBar h)) ++
    [.named "backgroundColor" (.code palette.scaffold.code)]

/-- The code between the arguments of the page and the scales of the frame. -/
def builderHead : String :=
  "      body: SafeArea(\n" ++
  "        child: LayoutBuilder(\n" ++
  "          builder: (context, constraints) \x7b\n"

/-- The code between the scales of the frame and the rows. -/
def stackHead : String :=
  "            return Stack(\n" ++
  "              fit: StackFit.expand,\n" ++
  "              clipBehavior: Clip.none,\n" ++
  "              children: [\n"

/-- The code in front of the rows. -/
def opening (appName : Json) (header : Option Header) (palette : Palette) (usesFrame : Bool) :
    String :=
  Dart.printBody 0 (front (appBody appName palette)) ++ pageHead ++
    Dart.printArguments 6 (pageArguments header palette) ++ builderHead ++
    Dart.printBody 12 (if usesFrame then scales else []) ++ stackHead

/-- The code after the rows. -/
def closing : String :=
  "              ],\n" ++
  "            );\n" ++
  "          \x7d,\n" ++
  "        ),\n" ++
  "      ),\n" ++
  "    );\n" ++
  "  \x7d\n" ++
  "\x7d\n"

theorem screenCode_eq (appName : Json) (header : Option Header) (background : String)
    (rows : List String) (usesFrame : Bool) :
    screenCode appName header background rows usesFrame =
      opening appName header (paletteOf header background) usesFrame ++ Dart.rowLines rows ++
        closing := by
  have hpage : pageHead = Dart.spaces 0 ++
      ("class " ++ "HomeScreen" ++ " extends StatelessWidget") ++
      " \x7b\n" ++ Dart.spaces 2 ++ "@override" ++ "\n" ++ Dart.spaces 2 ++
      "Widget build(BuildContext context)" ++ " \x7b\n" ++ Dart.spaces 4 ++ "return " ++
      "Scaffold" ++
      "(\n" := rfl
  have hbuilder : builderHead = Dart.spaces 6 ++ "body" ++ ": " ++ "SafeArea" ++ "(\n" ++
      Dart.spaces 8 ++ "child" ++ ": " ++ "LayoutBuilder" ++ "(\n" ++
      Dart.spaces 10 ++ "builder" ++ ": " ++ "(context, constraints)" ++ " \x7b\n" := rfl
  have hstack : stackHead = Dart.spaces 12 ++ "return " ++ "Stack" ++ "(\n" ++
      Dart.spaces 14 ++ "fit" ++ ": " ++ "StackFit.expand" ++ ",\n" ++
      Dart.spaces 14 ++ "clipBehavior" ++ ": " ++ "Clip.none" ++ ",\n" ++
      Dart.spaces 14 ++ "children" ++ ": " ++ "[\n" := rfl
  have hclosing : closing = Dart.spaces 14 ++ "]" ++ ",\n" ++ Dart.spaces 12 ++ ")" ++ ";\n" ++
      Dart.spaces 10 ++ "\x7d" ++ ",\n" ++ Dart.spaces 8 ++ ")" ++ ",\n" ++
      Dart.spaces 6 ++ ")" ++ ",\n" ++ Dart.spaces 4 ++ ")" ++ ";\n" ++
      Dart.spaces 2 ++ "\x7d\n" ++ Dart.spaces 0 ++ "\x7d\n" := rfl
  unfold screenCode opening
  dsimp only
  rw [program_eq, Dart.printBody_append, hpage, hbuilder, hstack, hclosing]
  simp only [widgetClass, homeBody, pageArguments, Dart.printBody, Dart.printArguments,
    Dart.printArguments_append, Dart.printBody_append, Dart.Expr.print, String.append_assoc,
    String.append_empty]

end Document

/-- The background of a screen as it was saved, white if there is none. -/
def Screen.background (s : Screen) : String :=
  (Json.firstPresent [s.properties.get "backgroundColor"] (.string "#ffffff")).display

namespace Arrangement

theorem header?_eq (appName : Json) (components : List Component) :
    (ofComponents components).header? appName =
      (components.find? Component.isHeader).mapM (Header.ofComponent appName) := by
  rw [header?, ← List.head?_filter]
  simp only [ofComponents]
  cases components.filter Component.isHeader with
  | nil => rfl
  | cons first rest => cases Header.ofComponent appName first <;> rfl

/-- The app bar that was read is that of the first header, if there is one. -/
theorem cases_of_header? {appName : Json} {components : List Component} {header : Option Header}
    (h : (ofComponents components).header? appName = .ok header) :
    (components.find? Component.isHeader = none ∧ header = none) ∨
    ∃ first bar, components.find? Component.isHeader = some first ∧
      Header.ofComponent appName first = .ok bar ∧ header = some bar := by
  rw [header?_eq] at h
  cases hfirst : components.find? Component.isHeader with
  | none =>
    rw [hfirst] at h
    exact .inl ⟨rfl, (Except.ok.inj h).symm⟩
  | some first =>
    rw [hfirst] at h
    obtain ⟨bar, hbar, hsome⟩ := exists_of_bind_eq_ok h
    exact .inr ⟨first, bar, rfl, hbar, (Except.ok.inj hsome).symm⟩

end Arrangement

namespace Document

/-- The rows of what the components of a stack were read as. -/
def rowsOf (read : List (Widget × Geometry)) : List String :=
  read.map fun row => Emission.rowOf row.1 row.2 stackLevel

/-- The code of an app bar and of what the components of a stack were read as. -/
def codeOf (appName : Json) (header : Option Header) (background : String)
    (read : List (Widget × Geometry)) : String :=
  opening appName header (paletteOf header background) (read.any (·.2.usesFrame)) ++
    Dart.rowLines (rowsOf read) ++ closing

/-- The document of a screen whose parts were read. -/
def compiled (appName : Json) (screen : Screen) (header : Option Header)
    (read : List (Widget × Geometry)) : Document where
  code := codeOf appName header screen.background read
  screenName := screen.name
  lineCount := Text.lineCount (codeOf appName header screen.background read).toList
  componentCount := screen.components.length
  positionedCount := read.length
  hasAppBar := header.isSome
  isFallback := false

theorem isHeader_of_mem_placed {components : List Component} {c : Component}
    (h : c ∈ (Arrangement.ofComponents components).placed) : c.isHeader = false := by
  simpa using (List.mem_filter.1 h).2

/-- A screen with components is compiled in two readings, of its app bar and of
the components on its stack. -/
theorem ofScreen_of_components (appName : Json) {screen : Screen}
    (h : screen.components.isEmpty = false) :
    ofScreen appName screen = do
      let header ← (Arrangement.ofComponents screen.components).header? appName
      let read ← (Arrangement.ofComponents screen.components).placed.mapM Component.reading
      return compiled appName screen header read := by
  rw [ofScreen, if_neg (by simp [h])]
  refine except_bind_congr fun header => ?_
  rw [Emission.components_eq, Emission.outcomes_start_eq _ fun c hc => isHeader_of_mem_placed hc]
  cases (Arrangement.ofComponents screen.components).placed.mapM Component.reading with
  | error e => rfl
  | ok read =>
    have hrows : (read.map fun row => some
          (Emission.rowOf row.1 row.2 stackLevel, row.2.usesFrame)).filterMap (·.map (·.1)) =
        rowsOf read := by
      rw [List.filterMap_map]
      exact congrFun (List.filterMap_eq_map
        (f := fun row : Widget × Geometry => Emission.rowOf row.1 row.2 stackLevel)) read
    have hframe : ((read.map fun row => some
          (Emission.rowOf row.1 row.2 stackLevel, row.2.usesFrame)).any (·.any (·.2))) =
        read.any (·.2.usesFrame) := by
      rw [List.any_map]
      rfl
    simp only [Except.map, bind, Except.bind, pure, Except.pure, hrows, hframe, screenCode_eq,
      Emission.start, Bool.false_or]
    simp [compiled, codeOf, rowsOf, Screen.background]

theorem ofScreen_eq_ok {appName : Json} {screen : Screen} {header : Option Header}
    {read : List (Widget × Geometry)} (h : screen.components.isEmpty = false)
    (hheader : (Arrangement.ofComponents screen.components).header? appName = .ok header)
    (hread : (Arrangement.ofComponents screen.components).placed.mapM Component.reading =
      .ok read) :
    ofScreen appName screen = .ok (compiled appName screen header read) := by
  rw [ofScreen_of_components appName h, hheader, hread]
  rfl

theorem exists_of_ofScreen_eq_ok {appName : Json} {screen : Screen} {document : Document}
    (h : screen.components.isEmpty = false) (hdocument : ofScreen appName screen = .ok document) :
    ∃ header read, (Arrangement.ofComponents screen.components).header? appName = .ok header ∧
      (Arrangement.ofComponents screen.components).placed.mapM Component.reading = .ok read ∧
      compiled appName screen header read = document := by
  rw [ofScreen_of_components appName h] at hdocument
  obtain ⟨header, hheader, hread⟩ := exists_of_bind_eq_ok hdocument
  obtain ⟨read, hread, hcompiled⟩ := exists_of_bind_eq_ok hread
  exact ⟨header, read, hheader, hread, Except.ok.inj hcompiled⟩

end Document

end Maquette
