import Maquette.Proofs.Dart.Legible

/-!
# What code displays

The literals of printed code are the texts that its tree displays, in order, and
everything between them depends on the rest of the tree only. Both are statements
about glyphs, and hold of every tree, tidy or not; a tidy tree is one whose text
has these glyphs.
-/

namespace Maquette.Dart

open Text

mutual

/-- The displayed texts of an expression as its literals read them, in order. A
moved expression has its texts reflowed. -/
def Expr.texts (column : Nat) : Expr → List (List Char)
  | .code _ | .broken _ _ | .rows _ => []
  | .text value => [value.toList]
  | .apply _ argument => argument.texts column
  | .call _ arguments => argumentTexts (column + 2) arguments
  | .list items => itemTexts (column + 2) items
  | .closure _ body => bodyTexts (column + 2) body
  | .moved value => (value.texts 0).map (reflow column)

/-- The displayed texts of some arguments. -/
def argumentTexts (column : Nat) : List Argument → List (List Char)
  | [] => []
  | .positional value :: rest => value.texts column ++ argumentTexts column rest
  | .named _ value :: rest => value.texts column ++ argumentTexts column rest

/-- The displayed texts of some items. -/
def itemTexts (column : Nat) : List Expr → List (List Char)
  | [] => []
  | item :: rest => item.texts column ++ itemTexts column rest

/-- The displayed texts of some statements, and the literals of their lines. -/
def bodyTexts (column : Nat) : List Statement → List (List Char)
  | [] => []
  | .line text :: rest => literals (lineGlyphs text) ++ bodyTexts column rest
  | .result value :: rest => value.texts column ++ bodyTexts column rest
  | .block _ body :: rest => bodyTexts (column + 2) body ++ bodyTexts column rest
  | .gap :: rest => bodyTexts column rest

end

@[simp] theorem literals_blankGlyphs (margin : Nat) : literals (blankGlyphs margin) = [] :=
  literals_chars _

mutual

theorem Expr.literals_glyphs (column : Nat) :
    ∀ e : Expr, literals (e.glyphs column) = e.texts column
  | .code _ => literals_chars _
  | .broken _ _ => literals_chars _
  | .text _ => rfl
  | .apply _ argument => by
    simpa [Expr.glyphs, Expr.texts] using argument.literals_glyphs column
  | .call _ arguments => by
    simpa [Expr.glyphs, Expr.texts] using literals_argumentGlyphs (column + 2) arguments
  | .list items => by
    simpa [Expr.glyphs, Expr.texts] using literals_itemGlyphs (column + 2) items
  | .rows _ => by simp [Expr.glyphs, Expr.texts]
  | .closure _ body => by
    simpa [Expr.glyphs, Expr.texts] using literals_bodyGlyphs (column + 2) body
  | .moved value => by
    rw [Expr.glyphs, literals_shift, value.literals_glyphs 0, Expr.texts]

theorem literals_argumentGlyphs (column : Nat) :
    ∀ arguments : List Argument,
      literals (argumentGlyphs column arguments) = argumentTexts column arguments
  | [] => rfl
  | .positional value :: rest => by
    simp [argumentGlyphs, argumentTexts, value.literals_glyphs column,
      literals_argumentGlyphs column rest]
  | .named _ value :: rest => by
    simp [argumentGlyphs, argumentTexts, value.literals_glyphs column,
      literals_argumentGlyphs column rest]

theorem literals_itemGlyphs (column : Nat) :
    ∀ items : List Expr, literals (itemGlyphs column items) = itemTexts column items
  | [] => rfl
  | item :: rest => by
    simp [itemGlyphs, itemTexts, item.literals_glyphs column, literals_itemGlyphs column rest]

theorem literals_bodyGlyphs (column : Nat) :
    ∀ body : List Statement, literals (bodyGlyphs column body) = bodyTexts column body
  | [] => rfl
  | .line _ :: rest => by
    simp [bodyGlyphs, bodyTexts, literals_bodyGlyphs column rest]
  | .result value :: rest => by
    simp [bodyGlyphs, bodyTexts, value.literals_glyphs column, literals_bodyGlyphs column rest]
  | .block _ body :: rest => by
    simp [bodyGlyphs, bodyTexts, literals_bodyGlyphs (column + 2) body,
      literals_bodyGlyphs column rest]
  | .gap :: rest => by
    simp [bodyGlyphs, bodyTexts, literals_bodyGlyphs column rest]

end

mutual

/-- The expression without its displayed texts. -/
def Expr.blanked : Expr → Expr
  | .code text => .code text
  | .broken first more => .broken first more
  | .text _ => .text ""
  | .apply callee argument => .apply callee argument.blanked
  | .call callee arguments => .call callee (blankedArguments arguments)
  | .list items => .list (blankedItems items)
  | .rows items => .rows items
  | .closure parameters body => .closure parameters (blankedBody body)
  | .moved value => .moved value.blanked

/-- Some arguments without their displayed texts. -/
def blankedArguments : List Argument → List Argument
  | [] => []
  | .positional value :: rest => .positional value.blanked :: blankedArguments rest
  | .named label value :: rest => .named label value.blanked :: blankedArguments rest

/-- Some items without their displayed texts. -/
def blankedItems : List Expr → List Expr
  | [] => []
  | item :: rest => item.blanked :: blankedItems rest

/-- Some statements without their displayed texts. -/
def blankedBody : List Statement → List Statement
  | [] => []
  | .line text :: rest => .line text :: blankedBody rest
  | .result value :: rest => .result value.blanked :: blankedBody rest
  | .block head body :: rest => .block head (blankedBody body) :: blankedBody rest
  | .gap :: rest => .gap :: blankedBody rest

end

@[simp] theorem erase_blankGlyphs (margin : Nat) :
    erase (blankGlyphs margin) = blankGlyphs margin :=
  erase_chars _

@[simp] theorem erase_erase (gs : List Glyph) : erase (erase gs) = erase gs := by
  induction gs with
  | nil => rfl
  | cons g gs ih => cases g <;> exact congrArg (_ :: ·) ih

mutual

/-- What a scan finds outside of literals is the same without displayed texts. -/
theorem Expr.erase_glyphs_blanked (column : Nat) :
    ∀ e : Expr, erase (e.blanked.glyphs column) = erase (e.glyphs column)
  | .code _ => rfl
  | .broken _ _ => rfl
  | .text _ => rfl
  | .apply _ argument => by
    simp [Expr.blanked, Expr.glyphs, argument.erase_glyphs_blanked column]
  | .call _ arguments => by
    simp [Expr.blanked, Expr.glyphs, erase_argumentGlyphs_blanked (column + 2) arguments]
  | .list items => by
    simp [Expr.blanked, Expr.glyphs, erase_itemGlyphs_blanked (column + 2) items]
  | .rows _ => rfl
  | .closure _ body => by
    simp [Expr.blanked, Expr.glyphs, erase_bodyGlyphs_blanked (column + 2) body]
  | .moved value => by
    rw [Expr.blanked, Expr.glyphs, Expr.glyphs, erase_shift, erase_shift,
      value.erase_glyphs_blanked 0]

theorem erase_argumentGlyphs_blanked (column : Nat) :
    ∀ arguments : List Argument,
      erase (argumentGlyphs column (blankedArguments arguments)) =
        erase (argumentGlyphs column arguments)
  | [] => rfl
  | .positional value :: rest => by
    simp [blankedArguments, argumentGlyphs, value.erase_glyphs_blanked column,
      erase_argumentGlyphs_blanked column rest]
  | .named _ value :: rest => by
    simp [blankedArguments, argumentGlyphs, value.erase_glyphs_blanked column,
      erase_argumentGlyphs_blanked column rest]

theorem erase_itemGlyphs_blanked (column : Nat) :
    ∀ items : List Expr,
      erase (itemGlyphs column (blankedItems items)) = erase (itemGlyphs column items)
  | [] => rfl
  | item :: rest => by
    simp [blankedItems, itemGlyphs, item.erase_glyphs_blanked column,
      erase_itemGlyphs_blanked column rest]

theorem erase_bodyGlyphs_blanked (column : Nat) :
    ∀ body : List Statement,
      erase (bodyGlyphs column (blankedBody body)) = erase (bodyGlyphs column body)
  | [] => rfl
  | .line _ :: rest => by
    simp [blankedBody, bodyGlyphs, erase_bodyGlyphs_blanked column rest]
  | .result value :: rest => by
    simp [blankedBody, bodyGlyphs, value.erase_glyphs_blanked column,
      erase_bodyGlyphs_blanked column rest]
  | .block _ body :: rest => by
    simp [blankedBody, bodyGlyphs, erase_bodyGlyphs_blanked (column + 2) body,
      erase_bodyGlyphs_blanked column rest]
  | .gap :: rest => by
    simp [blankedBody, bodyGlyphs, erase_bodyGlyphs_blanked column rest]

end

end Maquette.Dart
