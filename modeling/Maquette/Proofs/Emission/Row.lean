import Maquette.Proofs.Emission.Widget
import Maquette.Proofs.Outcome
import Maquette.Proofs.Widget.Displayed

/-!
# The code that places a widget

A widget is written in the first column and moved to its place as finished text,
inside of the call that positions it. The move reflows its texts, the position is
plain code, and nothing else is added.
-/

namespace Maquette

open Dart (Glyph Legible Plain plain_ofList chars blankGlyphs shift literals erase)

namespace Widget

/-- The code of a widget begins with the name of a class. -/
theorem exists_code_eq_cons (w : Widget) :
    ∃ c rest, w.code.toList = c :: rest ∧ Text.isBlank c = false := by
  have hcall (callee : List Char) (c : Char) (rest : List Char) (arguments : List Dart.Argument)
      (h : callee = c :: rest) (hc : Text.isBlank c = false) :
      ∃ c rest, ((Dart.Expr.call (String.ofList callee) arguments).print 0).toList = c :: rest ∧
        Text.isBlank c = false := by
    simp [Dart.Expr.print, h, hc]
  unfold code
  cases w with
  | label content => exact hcall _ _ _ _ rfl (by decide)
  | heading content => exact hcall _ _ _ _ rfl (by decide)
  | button content => exact hcall _ _ _ _ rfl (by decide)
  | card content => exact hcall _ _ _ _ rfl (by decide)
  | icon content => exact hcall _ _ _ _ rfl (by decide)
  | picture content =>
    cases content with
    | missing radius => exact hcall _ _ _ _ rfl (by decide)
    | network source fit radius => exact hcall _ _ _ _ rfl (by decide)
  | box content => exact hcall _ _ _ _ rfl (by decide)
  | placeholder text => exact hcall _ _ _ _ rfl (by decide)

end Widget

namespace Geometry

/-- What a scan finds in the arguments that position a widget. -/
def positionGlyphs (g : Geometry) (margin : Nat) : List Glyph :=
  blankGlyphs margin ++ chars ("  left: " ++ g.left.code ++ ",\n").toList ++
    (blankGlyphs margin ++ chars ("  top: " ++ g.top.code ++ ",\n").toList) ++
    (blankGlyphs margin ++ chars ("  width: " ++ g.width.code ++ ",\n").toList) ++
    (blankGlyphs margin ++ chars ("  height: " ++ g.height.code ++ ",\n").toList)

/-- What a scan finds in the code that places a widget. -/
def rowGlyphs (g : Geometry) (margin : Nat) (child : List Glyph) : List Glyph :=
  blankGlyphs margin ++ chars "Positioned".toList ++
    .char '(' :: (.char '\n' :: g.positionGlyphs margin ++
      (blankGlyphs margin ++ chars "  child: ".toList ++ child ++ chars [',', '\n']) ++
      blankGlyphs margin ++ [.char ')'])

theorem legible_positionGlyphs (g : Geometry) (margin : Nat) :
    Legible (Dart.written (g.positionGlyphs margin)) (g.positionGlyphs margin) := by
  have hline (label : String) {code : String} (hlabel : Plain label) (hcode : Plain code) :
      Plain (label ++ code ++ ",\n") :=
    (hlabel.append hcode).append (plain_ofList (by decide))
  have hleft := (Legible.blanks margin).append (hline "  left: "
    (plain_ofList (by decide)) g.left.plain_code)
  have htop := (Legible.blanks margin).append (hline "  top: "
    (plain_ofList (by decide)) g.top.plain_code)
  have hwidth := (Legible.blanks margin).append (hline "  width: "
    (plain_ofList (by decide)) g.width.plain_code)
  have hheight := (Legible.blanks margin).append (hline "  height: "
    (plain_ofList (by decide)) g.height.plain_code)
  have hlines := ((hleft.append htop).append hwidth).append hheight
  exact ⟨rfl, hlines.wellFormed, hlines.closed⟩

/-- The code that places a finished snippet reads as the position and the snippet. -/
theorem legible_positioned (g : Geometry) (level : Int) {snippet : List Char} {child : List Glyph}
    (h : Legible (Text.trimLeft snippet) child) :
    Legible (g.positioned snippet level).toList (g.rowGlyphs (Text.levelMargin level) child) := by
  have hname : Plain "Positioned" := plain_ofList (by decide)
  have hlabel : Plain "  child: " := plain_ofList (by decide)
  have hblanks := Legible.blanks (Text.levelMargin level)
  have hposition := Legible.newline.append (g.legible_positionGlyphs (Text.levelMargin level))
  have hchild := ((hblanks.append hlabel).append h).append Legible.comma
  have hinside := ((hposition.append hchild).append hblanks).parenthesized
  have hrow := (hblanks.append hname).append hinside
  unfold positioned
  simpa [rowGlyphs, positionGlyphs, Dart.written_blankGlyphs] using hrow

theorem literals_rowGlyphs (g : Geometry) (margin : Nat) (child : List Glyph) :
    literals (g.rowGlyphs margin child) = literals child := by
  simp [rowGlyphs, positionGlyphs]

theorem erase_rowGlyphs (g : Geometry) (margin : Nat) (child : List Glyph) :
    erase (g.rowGlyphs margin child) = g.rowGlyphs margin (erase child) := by
  simp [rowGlyphs, positionGlyphs]

end Geometry

namespace Widget

/-- What a scan finds in the code that places the widget so many levels in. -/
def rowGlyphs (w : Widget) (g : Geometry) (level : Int) : List Glyph :=
  g.rowGlyphs (Text.levelMargin level) (shift (Text.levelMargin (level + 1)) (w.expr.glyphs 0))

theorem legible_rowOf {w : Widget} (h : w.HasPlainGlyph) (g : Geometry) (level : Int) :
    Legible (Emission.rowOf w g level).toList (w.rowGlyphs g level) := by
  have hcode := (w.expr.legible_print 0 (tidy_expr h)).shift (Text.levelMargin (level + 1))
  obtain ⟨c, rest, hcons, hblank⟩ := w.exists_code_eq_cons
  refine g.legible_positioned level ?_
  rw [hcons, Text.trimLeft_indent hblank, ← hcons]
  exact hcode

theorem literals_rowGlyphs (w : Widget) (g : Geometry) (level : Int) :
    literals (w.rowGlyphs g level) =
      w.texts.map fun text => Text.reflow (Text.levelMargin (level + 1) + w.depth) text.toList := by
  rw [rowGlyphs, Geometry.literals_rowGlyphs, Dart.literals_shift, Dart.Expr.literals_glyphs,
    texts_expr, List.map_map]
  exact List.map_congr_left fun text _ => Text.reflow_reflow _ _ _

/-- Outside of literals, widgets that only differ in their texts are placed by the
same code. -/
theorem erase_rowGlyphs_congr {w w' : Widget} (h : w.untexted = w'.untexted) (g : Geometry)
    (level : Int) : erase (w.rowGlyphs g level) = erase (w'.rowGlyphs g level) := by
  have hblanked : w.expr.blanked = w'.expr.blanked := by
    rw [← blanked_expr_untexted, h, blanked_expr_untexted]
  rw [rowGlyphs, rowGlyphs, Geometry.erase_rowGlyphs, Geometry.erase_rowGlyphs, Dart.erase_shift,
    Dart.erase_shift, ← Dart.Expr.erase_glyphs_blanked, hblanked, Dart.Expr.erase_glyphs_blanked]

theorem hasPlainGlyph_of_ofComponent {c : Component} {w : Widget} (h : ofComponent c = .ok w) :
    w.HasPlainGlyph := by
  unfold ofComponent at h
  split at h
  · obtain ⟨content, -, rfl⟩ := exists_of_map_eq_ok h
    exact trivial
  · obtain ⟨content, -, rfl⟩ := exists_of_map_eq_ok h
    exact trivial
  · obtain ⟨content, -, rfl⟩ := exists_of_map_eq_ok h
    exact trivial
  · obtain ⟨content, -, rfl⟩ := exists_of_map_eq_ok h
    exact trivial
  · obtain ⟨content, hcontent, rfl⟩ := exists_of_map_eq_ok h
    obtain ⟨size, -, hsize⟩ := exists_of_bind_eq_ok hcontent
    obtain rfl := Except.ok.inj hsize
    exact Icon.plain_glyphOf _
  · obtain ⟨content, -, rfl⟩ := exists_of_map_eq_ok h
    exact trivial
  · obtain ⟨content, -, rfl⟩ := exists_of_map_eq_ok h
    exact trivial
  · obtain rfl := Except.ok.inj h
    exact trivial

end Widget

end Maquette
