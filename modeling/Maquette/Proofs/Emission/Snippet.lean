import Maquette.Proofs.Emission.Row
import Maquette.Proofs.Widget.Settings

/-!
# The code of a component on its own

The code that an emitter gives for a component is that of its widget, moved to its
level as finished text. The move adds blanks and nothing else, so what the code sets
can be read off its text at every level.
-/

namespace Maquette

open Dart (Glyph Legible blankGlyphs shift)

namespace Widget

/-- What a scan finds in the code of the widget so many levels in. -/
def snippetGlyphs (w : Widget) (level : Int) : List Glyph :=
  blankGlyphs (Text.levelMargin level) ++ shift (Text.levelMargin level) (w.expr.glyphs 0)

theorem legible_indent_code {w : Widget} (h : w.HasPlainGlyph) (level : Int) :
    Legible (Text.indent (Text.levelMargin level) w.code.toList) (w.snippetGlyphs level) := by
  have hcode := (w.expr.legible_print 0 (tidy_expr h)).shift (Text.levelMargin level)
  obtain ⟨c, rest, hcons, hblank⟩ := w.exists_code_eq_cons
  rw [hcons, Text.indent_cons hblank, ← hcons]
  exact (Legible.blanks (Text.levelMargin level)).append hcode

/-- What the code of a widget sets is what its tree sets, on every level. -/
theorem settings_snippetGlyphs {w : Widget} {label : String} (h : w.expr.ClearOf label)
    (level : Int) : Dart.settings label (w.snippetGlyphs level) = w.expr.settings label := by
  rw [snippetGlyphs, Dart.settings_blankGlyphs_append, Dart.settings_shift,
    Dart.Expr.settings_glyphs h]

end Widget

namespace Emission

/-- The code of a component that is no header, if its widget can be read. -/
theorem widget_start_of_not_isHeader {c : Component} (h : c.isHeader = false) (level : Int) :
    start.widget c level = (Widget.ofComponent c).map fun w =>
      some (Text.indent (Text.levelMargin level) w.code.toList) := by
  rw [widget, if_neg (by simp [h]), emitterFor_start]
  cases Widget.ofComponent c <;> rfl

theorem widget_start_of_isHeader {c : Component} (h : c.isHeader = true) (level : Int) :
    start.widget c level = .ok none := by
  rw [widget, if_pos h]

theorem exists_of_widget_eq_some {c : Component} {level : Int} {snippet : List Char}
    (h : start.widget c level = .ok (some snippet)) :
    ∃ w, Widget.ofComponent c = .ok w ∧
      snippet = Text.indent (Text.levelMargin level) w.code.toList := by
  by_cases hheader : c.isHeader = true
  · rw [widget_start_of_isHeader hheader] at h
    cases h
  · rw [Bool.not_eq_true] at hheader
    rw [widget_start_of_not_isHeader hheader] at h
    obtain ⟨w, hw, hsnippet⟩ := exists_of_map_eq_ok h
    exact ⟨w, hw, (Option.some.inj hsnippet).symm⟩

/-- The code of a component reads as the code of a widget, and sets under a label what
the tree of that widget sets. -/
theorem exists_settings_eq {c : Component} {level : Int} {snippet : List Char}
    (h : start.widget c level = .ok (some snippet)) :
    ∃ w glyphs, Widget.ofComponent c = .ok w ∧ Dart.lex snippet = some glyphs ∧
      ∀ label, label ∉ frameLabels → Dart.settings label glyphs = w.expr.settings label := by
  obtain ⟨w, hw, rfl⟩ := exists_of_widget_eq_some h
  have hlegible := Widget.legible_indent_code (Widget.hasPlainGlyph_of_ofComponent hw) level
  refine ⟨w, w.snippetGlyphs level, hw, hlegible.lex_eq, fun label hlabel => ?_⟩
  exact Widget.settings_snippetGlyphs (Widget.clearOf_expr hlabel hw) level

end Emission

end Maquette
