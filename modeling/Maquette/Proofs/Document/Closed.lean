import Mathlib.Data.List.Forall2
import Maquette.Proofs.Document.Legible
import Maquette.Proofs.Document.Readable
import Maquette.Proofs.Widget.Retexted

/-!
# No text gets out of its literal

A document is read as it was meant, whatever is displayed in it: its literals close
on their lines, and its brackets match. What a scan finds outside of the literals is
the same for any two screens that differ at most in the texts that they display.
-/

namespace Maquette

open Dart (erase chars)

section Pairs

variable {ε α β γ : Type} {f : α → Except ε β} {g : β → γ}

theorem map_mapM_congr {l l' : List α}
    (h : List.Forall₂ (fun a a' => (f a).map g = (f a').map g) l l') :
    (l.mapM f).map (List.map g) = (l'.mapM f).map (List.map g) := by
  induction h with
  | nil => rfl
  | cons hfirst hrest ih =>
    rw [List.mapM_cons, List.mapM_cons, except_map_bind, except_map_bind]
    refine except_bind_congr_of_map hfirst fun b b' hb => ?_
    rw [except_map_bind, except_map_bind]
    refine except_bind_congr_of_map ih fun bs bs' hbs => ?_
    simp only [Except.map, pure, Except.pure, List.map_cons, hb, hbs]

theorem exists_of_map_eq {x x' : Except ε β} (h : x.map g = x'.map g) {b : β} (hx : x = .ok b) :
    ∃ b', x' = .ok b' ∧ g b = g b' := by
  rw [hx] at h
  obtain ⟨b', hb', heq⟩ := exists_of_map_eq_ok h.symm
  exact ⟨b', hb', heq.symm⟩

end Pairs

namespace Header

/-- The app bar without its title. -/
def untitled (h : Header) : Header :=
  { h with title := "" }

variable {c c' : Component}

theorem titleSizeOf_eq (h : c.Retexted c') : titleSizeOf c = titleSizeOf c' := by
  unfold titleSizeOf
  simp (disch := decide) only [h.fraction?_eq, h.get_eq]

theorem map_untitled_ofComponent (h : c.Retexted c') (appName appName' : Json) :
    (ofComponent appName c).map untitled = (ofComponent appName' c').map untitled := by
  simp (disch := decide) only [ofComponent, titleSizeOf_eq h, h.get_eq, except_map_bind]
  rfl

end Header

namespace Component

/-- What a component is read as, without its texts. -/
def outline (read : Widget × Geometry) : Widget × Geometry :=
  (read.1.untexted, read.2)

theorem map_outline_reading {c c' : Component} (h : c.Retexted c') :
    c.reading.map outline = c'.reading.map outline := by
  rw [reading, reading, except_map_bind, except_map_bind]
  refine except_bind_congr_of_map (Widget.map_untexted_ofComponent h) fun w w' hw => ?_
  rw [except_map_bind, except_map_bind, h.ofComponent_geometry_eq]
  refine except_bind_congr fun g => ?_
  simp only [Except.map, pure, Except.pure, outline, hw]

section Lists

variable {cs cs' : List Component} (h : List.Forall₂ Retexted cs cs')

include h

theorem forall₂_filter : List.Forall₂ Retexted (cs.filter (!·.isHeader))
    (cs'.filter (!·.isHeader)) :=
  List.rel_filter (fun _ _ hc => by simp only [hc.isHeader_eq]) h

theorem map_outline_placed :
    ((Arrangement.ofComponents cs).placed.mapM reading).map (List.map outline) =
      ((Arrangement.ofComponents cs').placed.mapM reading).map (List.map outline) :=
  map_mapM_congr ((forall₂_filter h).imp fun _ _ hc => map_outline_reading hc)

theorem map_untitled_header? (appName appName' : Json) :
    ((Arrangement.ofComponents cs).header? appName).map (Option.map Header.untitled) =
      ((Arrangement.ofComponents cs').header? appName').map (Option.map Header.untitled) := by
  have hheaders : List.Forall₂ Retexted (cs.filter isHeader) (cs'.filter isHeader) :=
    List.rel_filter (fun _ _ hc => by simp only [hc.isHeader_eq]) h
  unfold Arrangement.header? Arrangement.ofComponents
  dsimp only
  generalize cs.filter isHeader = headers at hheaders ⊢
  generalize cs'.filter isHeader = headers' at hheaders ⊢
  cases hheaders with
  | nil => rfl
  | cons hfirst hrest =>
    have htitle := Header.map_untitled_ofComponent hfirst appName appName'
    have hsome := congrArg (Except.map some) htitle
    simpa only [except_map_map, Option.map_some] using hsome

end Lists

end Component

/-- Two screens that differ at most in the texts that both of them display. -/
structure Screen.Retexted (s s' : Screen) : Prop where
  components : List.Forall₂ Component.Retexted s.components s'.components
  background_eq : s.properties.get "backgroundColor" = s'.properties.get "backgroundColor"

theorem Screen.Retexted.isEmpty_eq {s s' : Screen} (h : s.Retexted s') :
    s.components.isEmpty = s'.components.isEmpty := by
  have hlength := h.components.length_eq
  rw [Bool.eq_iff_iff, List.isEmpty_iff_length_eq_zero, List.isEmpty_iff_length_eq_zero, hlength]

namespace Document

theorem blanked_appBar_untitled (bar : Header) :
    (appBar bar.untitled).blanked = (appBar bar).blanked := by
  rcases bar with ⟨title, background, color, height, size, _ | _, _ | _⟩ <;> rfl

section Opening

variable (appName appName' : Json) {header header' : Option Header}
  (h : header.map Header.untitled = header'.map Header.untitled)

include h

theorem paletteOf_congr (background : String) :
    paletteOf header background = paletteOf header' background := by
  cases header with
  | none =>
    cases header' with
    | none => rfl
    | some bar' => cases h
  | some bar =>
    cases header' with
    | none => cases h
    | some bar' =>
      have huntitled : bar.untitled = bar'.untitled := Option.some.inj h
      have hcolor : bar.untitled.backgroundColor = bar'.untitled.backgroundColor :=
        congrArg Header.backgroundColor huntitled
      change bar.backgroundColor = bar'.backgroundColor at hcolor
      simp only [paletteOf, Header.background, hcolor]

theorem blankedArguments_pageArguments (palette : Palette) :
    Dart.blankedArguments (pageArguments header palette) =
      Dart.blankedArguments (pageArguments header' palette) := by
  cases header with
  | none =>
    cases header' with
    | none => rfl
    | some bar' => cases h
  | some bar =>
    cases header' with
    | none => cases h
    | some bar' =>
      have huntitled : bar.untitled = bar'.untitled := Option.some.inj h
      have hbar : (appBar bar).blanked = (appBar bar').blanked := by
        rw [← blanked_appBar_untitled, huntitled, blanked_appBar_untitled]
      change Dart.Argument.named "appBar" (appBar bar).blanked :: _ = _
      rw [hbar]
      rfl

/-- Outside of literals, the opening does not depend on the name of the app and on the
title of the app bar. -/
theorem erase_openingGlyphs_congr (palette : Palette) (usesFrame : Bool) :
    erase (openingGlyphs appName header palette usesFrame) =
      erase (openingGlyphs appName' header' palette usesFrame) := by
  have hfront : Dart.blankedBody (front (appBody appName palette)) =
      Dart.blankedBody (front (appBody appName' palette)) := rfl
  have hfrontGlyphs := Dart.erase_bodyGlyphs_blanked 0 (front (appBody appName palette))
  have hpage := Dart.erase_argumentGlyphs_blanked 6 (pageArguments header palette)
  rw [hfront, Dart.erase_bodyGlyphs_blanked] at hfrontGlyphs
  rw [blankedArguments_pageArguments h, Dart.erase_argumentGlyphs_blanked] at hpage
  simp only [openingGlyphs, Dart.erase_append, hfrontGlyphs, hpage]

end Opening

section Rows

variable {read read' : List (Widget × Geometry)}
  (h : read.map Component.outline = read'.map Component.outline)

include h

theorem any_usesFrame_congr : read.any (·.2.usesFrame) = read'.any (·.2.usesFrame) := by
  have hany := congrArg (fun rows => rows.any fun row => row.2.usesFrame) h
  simp only [List.any_map] at hany
  exact hany

theorem erase_rowGlyphs_congr : erase (rowGlyphs read) = erase (rowGlyphs read') := by
  induction read generalizing read' with
  | nil =>
    rw [List.map_eq_nil_iff.1 h.symm]
  | cons row read ih =>
    cases read' with
    | nil => cases h
    | cons row' read' =>
      obtain ⟨hrow, hread⟩ := List.cons.inj h
      have huntexted : row.1.untexted = row'.1.untexted := (Prod.mk.inj hrow).1
      have hplace : row.2 = row'.2 := (Prod.mk.inj hrow).2
      have hglyphs := Widget.erase_rowGlyphs_congr huntexted row.2 stackLevel
      rw [rowGlyphs, rowGlyphs, List.flatMap_cons, List.flatMap_cons, Dart.erase_append,
        Dart.erase_append, Dart.erase_append, Dart.erase_append, hglyphs, hplace]
      exact congrArg (_ ++ ·) (ih hread)

end Rows

theorem erase_welcomeGlyphs (name name' : String) :
    erase (welcomeGlyphs name) = erase (welcomeGlyphs name') := by
  rw [welcomeGlyphs, ← Dart.erase_bodyGlyphs_blanked, welcomeGlyphs,
    ← Dart.erase_bodyGlyphs_blanked 0 (program (welcomeApp name') (welcomeHome name'))]
  rfl

/-- Outside of literals, a document with components does not depend on the texts that
are displayed. -/
theorem erase_glyphsOf_congr (appName appName' : Json) {header header' : Option Header}
    {read read' : List (Widget × Geometry)} (background : String)
    (hheader : header.map Header.untitled = header'.map Header.untitled)
    (hread : read.map Component.outline = read'.map Component.outline) :
    erase (glyphsOf appName header background read) =
      erase (glyphsOf appName' header' background read') := by
  have hopening := erase_openingGlyphs_congr appName appName' hheader
    (paletteOf header background) (read.any (·.2.usesFrame))
  rw [paletteOf_congr hheader, any_usesFrame_congr hread] at hopening
  rw [glyphsOf, glyphsOf, Dart.erase_append, Dart.erase_append, Dart.erase_append,
    Dart.erase_append, paletteOf_congr hheader, any_usesFrame_congr hread, hopening,
    erase_rowGlyphs_congr hread]

/-- A document of its own is read as it was meant, and so is that of any screen with
other texts. -/
theorem exists_legible_of_components {appName : Json} {screen : Screen} {document : Document}
    (hcomponents : screen.components.isEmpty = false)
    (h : ofScreen appName screen = .ok document) :
    ∃ glyphs, Dart.Legible document.code.toList glyphs ∧
      ∀ (appName' : Json) (screen' : Screen), screen.Retexted screen' →
        ∃ document' glyphs', ofScreen appName' screen' = .ok document' ∧
          Dart.Legible document'.code.toList glyphs' ∧ erase glyphs' = erase glyphs := by
  obtain ⟨header, read, hheader, hread, hcompiled⟩ := exists_of_ofScreen_eq_ok hcomponents h
  obtain rfl := hcompiled
  refine ⟨_, legible_codeOf appName header screen.background (hasPlainGlyph_of_mem hread), ?_⟩
  intro appName' screen' hretexted
  have hbackground : screen.background = screen'.background := by
    rw [Screen.background, hretexted.background_eq, Screen.background]
  obtain ⟨header', hheader', huntitled⟩ :=
    exists_of_map_eq (Component.map_untitled_header? hretexted.components appName appName') hheader
  obtain ⟨read', hread', houtline⟩ :=
    exists_of_map_eq (Component.map_outline_placed hretexted.components) hread
  refine ⟨compiled appName' screen' header' read', _, ?_,
    legible_codeOf appName' header' screen'.background (hasPlainGlyph_of_mem hread'), ?_⟩
  · exact ofScreen_eq_ok (hretexted.isEmpty_eq ▸ hcomponents) hheader' hread'
  · rw [← hbackground]
    exact (erase_glyphsOf_congr appName appName' screen.background huntitled houtline).symm

/-- The page that welcomes its reader is read as it was meant. -/
theorem exists_legible_of_welcome {appName : Json} {screen : Screen} {document : Document}
    (hcomponents : screen.components.isEmpty = true)
    (h : ofScreen appName screen = .ok document) :
    ∃ glyphs, Dart.Legible document.code.toList glyphs ∧
      ∀ (appName' : Json) (screen' : Screen), screen.Retexted screen' →
        ∃ document' glyphs', ofScreen appName' screen' = .ok document' ∧
          Dart.Legible document'.code.toList glyphs' ∧ erase glyphs' = erase glyphs := by
  rw [ofScreen, if_pos hcomponents] at h
  obtain rfl := Except.ok.inj h
  refine ⟨_, legible_welcomeCode appName, ?_⟩
  intro appName' screen' hretexted
  refine ⟨welcome appName' screen'.name, _, ?_, legible_welcomeCode appName',
    erase_welcomeGlyphs _ _⟩
  rw [ofScreen, if_pos (hretexted.isEmpty_eq ▸ hcomponents)]

/-- No displayed text gets out of its literal. A scan reads the whole document: every
literal is closed on the line where it opens and has no interpolation in it, and the
brackets outside of literals and comments match. For every screen with other texts in
place of those that are displayed, and for every name of the app, the scan finds the
same outside of the literals. -/
theorem texts_stay_in_literals (appName value : Json) {document : Document}
    (h : ofValue appName value = .ok document) :
    ∃ glyphs, Dart.lex document.code.toList = some glyphs ∧
      Dart.brackets [] glyphs = some [] ∧
      ∀ appName' value' : Json, (Screen.ofValue value).Retexted (Screen.ofValue value') →
        ∃ document' glyphs', ofValue appName' value' = .ok document' ∧
          Dart.lex document'.code.toList = some glyphs' ∧ erase glyphs' = erase glyphs := by
  have hlegible : ∃ glyphs, Dart.Legible document.code.toList glyphs ∧
      ∀ (appName' : Json) (screen' : Screen), (Screen.ofValue value).Retexted screen' →
        ∃ document' glyphs', ofScreen appName' screen' = .ok document' ∧
          Dart.Legible document'.code.toList glyphs' ∧ erase glyphs' = erase glyphs := by
    cases hcomponents : (Screen.ofValue value).components.isEmpty with
    | true => exact exists_legible_of_welcome hcomponents h
    | false => exact exists_legible_of_components hcomponents h
  obtain ⟨glyphs, hglyphs, hretexted⟩ := hlegible
  refine ⟨glyphs, hglyphs.lex_eq, hglyphs.closed [], ?_⟩
  intro appName' value' hvalue'
  obtain ⟨document', glyphs', hdocument', hglyphs', herase⟩ := hretexted appName' _ hvalue'
  exact ⟨document', glyphs', hdocument', hglyphs'.lex_eq, herase⟩

theorem retexted_oneText {text text' : String} (h : text ≠ "") (h' : text' ≠ "") :
    (Screen.ofValue (oneText text)).Retexted (Screen.ofValue (oneText text')) where
  components := by
    refine .cons ⟨rfl, rfl, rfl, rfl, ?_, ?_⟩ .nil
    · intro key hkey
      have hne : key ≠ "text" := fun heq => hkey (heq ▸ by decide)
      change Fields.get [("text", .string text)] key = Fields.get [("text", .string text')] key
      rw [Fields.get_cons, Fields.get_cons, if_neg hne, if_neg hne]
    · intro key _
      change Component.isDisplayed key (Fields.get [("text", .string text)] key) =
        Component.isDisplayed key (Fields.get [("text", .string text')] key)
      rw [Fields.get_cons, Fields.get_cons]
      by_cases heq : key = "text"
      · rw [if_pos heq, if_pos heq, heq]
        exact (bne_iff_ne.2 h).trans (bne_iff_ne.2 h').symm
      · rw [if_neg heq, if_neg heq]
  background_eq := rfl

theorem texts_stay_in_literals_oneText :
    ∃ document document' glyphs glyphs',
      ofValue (.string "App") (oneText "Hello") = .ok document ∧
      ofValue (.string "It's $5") (oneText "'); // \n\\") = .ok document' ∧
      Dart.lex document.code.toList = some glyphs ∧
      Dart.lex document'.code.toList = some glyphs' ∧ erase glyphs' = erase glyphs := by
  obtain ⟨document, hdocument⟩ :=
    exists_of_isReadable (.string "App") (oneText "Hello") (by decide)
  obtain ⟨glyphs, hglyphs, -, hretexted⟩ :=
    texts_stay_in_literals (.string "App") (oneText "Hello") hdocument
  obtain ⟨document', glyphs', hdocument', hglyphs', herase⟩ :=
    hretexted (.string "It's $5") (oneText "'); // \n\\")
      (retexted_oneText (by decide) (by decide))
  exact ⟨document, document', glyphs, glyphs', hdocument, hdocument', hglyphs, hglyphs', herase⟩

end Document

end Maquette
