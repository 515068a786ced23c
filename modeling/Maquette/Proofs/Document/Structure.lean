import Maquette.Proofs.Document.Opening
import Maquette.Proofs.Document.Readable
import Maquette.Proofs.Geometry.Frame

/-!
# Structure of a document

The code of a screen is its opening, the snippet that every component on its stack
gives on its own, in the order of the components, and a constant closing. Only the
first header has a part in the opening, so the others can go, and the first one can
stand anywhere among the components that are no headers.
-/

namespace Maquette

namespace Document

/-- The opening of a document, given all that it depends on. -/
def openingFor (appName : Json) (first : Option Component) (background : Json)
    (usesFrame : Bool) : Except NumberError String :=
  (first.mapM (Header.ofComponent appName)).map fun header =>
    opening appName header
      (paletteOf header (Json.firstPresent [background] (.string "#ffffff")).display) usesFrame

theorem isEmpty_eq_of_parts (components : List Component) :
    components.isEmpty = ((components.find? Component.isHeader).isNone &&
      (components.filter (!·.isHeader)).isEmpty) := by
  cases components with
  | nil => rfl
  | cons c rest => cases h : c.isHeader <;> simp [h]

/-- Screens with the same background whose app bars and stacks are read the same have the
same code, or fail in the same way. -/
theorem map_code_ofScreen_congr_of_read (appName : Json) {screen screen' : Screen}
    (hempty : screen.components.isEmpty = screen'.components.isEmpty)
    (hbackground : screen.background = screen'.background)
    (hheader : (Arrangement.ofComponents screen.components).header? appName =
      (Arrangement.ofComponents screen'.components).header? appName)
    (hread : (Arrangement.ofComponents screen.components).placed.mapM Component.reading =
      (Arrangement.ofComponents screen'.components).placed.mapM Component.reading) :
    (ofScreen appName screen).map code = (ofScreen appName screen').map code := by
  cases h : screen.components.isEmpty with
  | true =>
    rw [ofScreen, ofScreen, if_pos h, if_pos (hempty ▸ h)]
    rfl
  | false =>
    rw [ofScreen_of_components appName h, ofScreen_of_components appName (hempty ▸ h), hheader,
      hread]
    simp only [except_map_bind]
    refine except_bind_congr fun header => except_bind_congr fun read => ?_
    simp only [compiled, hbackground, pure, Except.pure, Except.map]

/-- Screens with the same background, the same first header and the same components
on their stacks have the same code, or fail in the same way. -/
theorem map_code_ofScreen_congr (appName : Json) {screen screen' : Screen}
    (hbackground : screen.background = screen'.background)
    (hfirst : screen.components.find? Component.isHeader =
      screen'.components.find? Component.isHeader)
    (hplaced : screen.components.filter (!·.isHeader) = screen'.components.filter (!·.isHeader)) :
    (ofScreen appName screen).map code = (ofScreen appName screen').map code := by
  refine map_code_ofScreen_congr_of_read appName ?_ hbackground ?_ ?_
  · rw [isEmpty_eq_of_parts, hfirst, hplaced, ← isEmpty_eq_of_parts]
  · rw [Arrangement.header?_eq, Arrangement.header?_eq, hfirst]
  · simp only [Arrangement.ofComponents, hplaced]

section Edits

variable (appName : Json) (screen : Screen)

/-- A header behind another one can be deleted. -/
theorem map_code_of_delete_header {before after : List Component} {header : Component}
    (hheader : header.isHeader = true) (hbefore : before.any Component.isHeader = true) :
    (ofScreen appName { screen with components := before ++ after }).map code =
      (ofScreen appName { screen with components := before ++ header :: after }).map code := by
  refine map_code_ofScreen_congr appName rfl ?_ ?_
  · obtain ⟨c, hc, hcheader⟩ := List.any_eq_true.1 hbefore
    have hfound : (before.find? Component.isHeader).isSome = true :=
      List.find?_isSome.2 ⟨c, hc, hcheader⟩
    obtain ⟨first, hfirst⟩ := Option.isSome_iff_exists.1 hfound
    simp [List.find?_append, hfirst]
  · simp [List.filter_append, hheader]

/-- The first header can be moved past components that are no headers. -/
theorem map_code_of_move_header {before between after : List Component} {header : Component}
    (hheader : header.isHeader = true)
    (hnone : (before ++ between).all (!·.isHeader) = true) :
    (ofScreen appName { screen with components := before ++ between ++ header :: after }).map code =
      (ofScreen appName
        { screen with components := before ++ header :: (between ++ after) }).map code := by
  have hskip (cs : List Component) (hcs : cs ⊆ before ++ between) :
      cs.find? Component.isHeader = none := by
    refine List.find?_eq_none.2 fun c hc => ?_
    simpa using List.all_eq_true.1 hnone c (hcs hc)
  refine map_code_ofScreen_congr appName rfl ?_ ?_
  · simp [List.find?_append, hskip before (List.subset_append_left _ _),
      hskip between (List.subset_append_right _ _), hheader]
  · simp [List.filter_append, hheader]

end Edits

section Reading

variable {appName : Json} {components : List Component} {header : Option Header}
  {read : List (Widget × Geometry)}

theorem isSome_eq_of_header?
    (h : (Arrangement.ofComponents components).header? appName = .ok header) :
    header.isSome = (components.find? Component.isHeader).isSome := by
  obtain ⟨hfirst, rfl⟩ | ⟨first, bar, hfirst, -, rfl⟩ := Arrangement.cases_of_header? h
  · rw [hfirst]
    rfl
  · rw [hfirst]
    rfl

theorem openingFor_eq_ok (h : (Arrangement.ofComponents components).header? appName = .ok header)
    (background : Json) (usesFrame : Bool) :
    openingFor appName (components.find? Component.isHeader) background usesFrame =
      .ok (opening appName header
        (paletteOf header (Json.firstPresent [background] (.string "#ffffff")).display)
        usesFrame) := by
  rw [Arrangement.header?_eq] at h
  rw [openingFor, h]
  rfl

theorem any_usesFrame_eq
    (h : (Arrangement.ofComponents components).placed.mapM Component.reading = .ok read) :
    read.any (·.2.usesFrame) = (components.filter (!·.isHeader)).any Component.isFramed := by
  have hframes := map_eq_of_mapM_eq_ok
    (fun c _ row hrow => Geometry.usesFrame_of_ofComponent (Component.of_reading_eq_ok hrow).2) h
  have hany := congrArg (fun flags => flags.any id) hframes
  simp only [List.any_map, Function.id_comp] at hany
  exact hany

/-- The snippet that a fresh run gives for a component is its row. -/
theorem component_start_of_reading {c : Component} (h : c.isHeader = false)
    {row : Widget × Geometry} (hrow : c.reading = .ok row) (level : Int) :
    (Emission.start.component c level).1 = .ok (some (Emission.rowOf row.1 row.2 level)) := by
  simp only [Emission.component, Emission.placed_start_of_not_isHeader h, hrow]
  rfl

theorem map_component_start_eq {cs : List Component} (h : ∀ c ∈ cs, c.isHeader = false)
    (hread : cs.mapM Component.reading = .ok read) :
    cs.map (fun c => (Emission.start.component c stackLevel).1) =
      (rowsOf read).map fun snippet => .ok (some snippet) := by
  have hrows := map_eq_of_mapM_eq_ok
    (fun c hc row hrow => (component_start_of_reading (h c hc) hrow stackLevel).symm) hread
  rw [rowsOf, List.map_map, ← hrows]
  rfl

end Reading

theorem lex_opening (appName : Json) (header : Option Header) (palette : Palette)
    (usesFrame : Bool) :
    Dart.lex (opening appName header palette usesFrame).toList =
      some (openingGlyphs appName header palette usesFrame) := by
  rw [← written_openingGlyphs, Dart.lex_written (wellFormed_openingGlyphs _ _ _ _)]

/-- The parts of the code of a screen with components. -/
theorem exists_parts_of_compiled {appName : Json} {screen : Screen} {header : Option Header}
    {read : List (Widget × Geometry)}
    (hheader : (Arrangement.ofComponents screen.components).header? appName = .ok header)
    (hread : (Arrangement.ofComponents screen.components).placed.mapM Component.reading =
      .ok read) :
    ∃ front glyphs,
      openingFor appName (screen.components.find? Component.isHeader)
        (screen.properties.get "backgroundColor")
        ((screen.components.filter (!·.isHeader)).any Component.isFramed) = .ok front ∧
      codeOf appName header screen.background read =
        front ++ Dart.rowLines (rowsOf read) ++ closing ∧
      Dart.lex front.toList = some glyphs ∧
      ("appBar" ∈ Dart.labels glyphs ↔
        (screen.components.find? Component.isHeader).isSome = true) := by
  have hframe := any_usesFrame_eq hread
  have hopening := openingFor_eq_ok hheader (screen.properties.get "backgroundColor")
    (read.any (·.2.usesFrame))
  have hlabel := appBar_mem_labels_iff appName header (paletteOf header screen.background)
    (read.any (·.2.usesFrame))
  rw [isSome_eq_of_header? hheader] at hlabel
  rw [← hframe]
  exact ⟨_, _, hopening, rfl, lex_opening _ _ _ _, hlabel⟩

/-- The counts of a document with components. -/
theorem counts_of_compiled {appName : Json} {screen : Screen} {header : Option Header}
    {read : List (Widget × Geometry)} {document : Document}
    (hheader : (Arrangement.ofComponents screen.components).header? appName = .ok header)
    (hread : (Arrangement.ofComponents screen.components).placed.mapM Component.reading =
      .ok read)
    (hcompiled : compiled appName screen header read = document) :
    document.componentCount = screen.components.length ∧
    document.positionedCount = (screen.components.filter (!·.isHeader)).length ∧
    document.hasAppBar = (screen.components.find? Component.isHeader).isSome ∧
    document.lineCount = 1 + document.code.toList.count '\n' := by
  have hlength : read.length = (screen.components.filter (!·.isHeader)).length :=
    length_eq_of_mapM_eq_ok hread
  have hlines : document.lineCount = Text.lineCount document.code.toList := by
    simp only [← hcompiled, compiled]
  refine ⟨?_, ?_, ?_, ?_⟩
  · rw [← hcompiled]
    rfl
  · rw [← hcompiled]
    exact hlength
  · rw [← hcompiled]
    exact isSome_eq_of_header? hheader
  · rw [hlines, Text.lineCount_eq, Nat.add_comm]

/-- The code of a screen with components: an opening that depends on the name of the
app, the first header, the background and the need of the reference frame only; the
snippet of every component that is no header, as a fresh run gives it, each with a
comma; and a constant closing. The opening has an argument for the app bar exactly if
there is a header. Later headers can go, the first one can be moved past components
that are no headers, and the counts are those of the components and of the lines. -/
theorem code_eq_opening_snippets_closing (appName value : Json) {document : Document}
    (hcomponents : (Screen.ofValue value).components ≠ [])
    (hdocument : ofValue appName value = .ok document) :
    let screen := Screen.ofValue value
    let first := screen.components.find? Component.isHeader
    let placed := screen.components.filter (!·.isHeader)
    (∃ front snippets glyphs,
      openingFor appName first (screen.properties.get "backgroundColor")
        (placed.any Component.isFramed) = .ok front ∧
      placed.map (fun c => (Emission.start.component c stackLevel).1) =
        snippets.map (fun snippet => .ok (some snippet)) ∧
      document.code = front ++ Dart.rowLines snippets ++ closing ∧
      Dart.lex front.toList = some glyphs ∧
      ("appBar" ∈ Dart.labels glyphs ↔ first.isSome = true)) ∧
    (∀ before header after, header.isHeader = true → before.any Component.isHeader = true →
      (ofScreen appName { screen with components := before ++ after }).map code =
        (ofScreen appName { screen with components := before ++ header :: after }).map code) ∧
    (∀ before between header after, header.isHeader = true →
      (before ++ between).all (!·.isHeader) = true →
      (ofScreen appName
        { screen with components := before ++ between ++ header :: after }).map code =
      (ofScreen appName
        { screen with components := before ++ header :: (between ++ after) }).map code) ∧
    document.componentCount =
      document.positionedCount + (screen.components.filter Component.isHeader).length ∧
    (document.hasAppBar = true ↔ ∃ c ∈ screen.components, c.isHeader = true) ∧
    document.lineCount = 1 + document.code.toList.count '\n' := by
  intro screen first placed
  have hnonempty : screen.components.isEmpty = false := by
    simpa using hcomponents
  obtain ⟨header, read, hheader, hread, hcompiled⟩ :=
    exists_of_ofScreen_eq_ok hnonempty hdocument
  obtain ⟨front, glyphs, hopening, hcode, hlex, hlabel⟩ := exists_parts_of_compiled hheader hread
  obtain ⟨hcount, hplaced, hbar, hlines⟩ := counts_of_compiled hheader hread hcompiled
  have hdocumentCode : document.code = codeOf appName header screen.background read :=
    congrArg Document.code hcompiled.symm
  have hsnippets := map_component_start_eq (fun c hc => isHeader_of_mem_placed hc) hread
  have hparts := Arrangement.length_headers_add_length_placed screen.components
  refine ⟨⟨front, rowsOf read, glyphs, hopening, hsnippets, hdocumentCode.trans hcode, hlex,
      hlabel⟩, ?_, ?_, ?_, ?_, hlines⟩
  · intro before header after hheader hbefore
    exact map_code_of_delete_header appName screen hheader hbefore
  · intro before between header after hheader hnone
    exact map_code_of_move_header appName screen hheader hnone
  · simp only [Arrangement.ofComponents] at hparts
    omega
  · rw [hbar, List.find?_isSome]

/-- A screen with a text between two headers. -/
def textBetweenHeaders : Json :=
  .object [("components", .array [
    .object [("type", .string "AppBar")],
    .object [("type", .string "Text")],
    .object [("type", .string " Header ")]])]

theorem code_textBetweenHeaders :
    ∃ document, ofValue (.string "App") textBetweenHeaders = .ok document ∧
      document.componentCount = document.positionedCount + 2 ∧ document.hasAppBar = true := by
  have hcomponents : (Screen.ofValue textBetweenHeaders).components ≠ [] := List.cons_ne_nil _ _
  have hheaders : ((Screen.ofValue textBetweenHeaders).components.filter
    Component.isHeader).length = 2 := by decide
  have hheader : ∃ c ∈ (Screen.ofValue textBetweenHeaders).components, c.isHeader = true :=
    ⟨_, List.mem_cons_self, by decide⟩
  obtain ⟨document, hdocument⟩ :=
    exists_of_isReadable (.string "App") textBetweenHeaders (by decide)
  obtain ⟨-, -, -, hcount, hbar, -⟩ :=
    code_eq_opening_snippets_closing (.string "App") textBetweenHeaders hcomponents hdocument
  rw [hheaders] at hcount
  exact ⟨document, hdocument, hcount, hbar.2 hheader⟩

end Document

end Maquette
