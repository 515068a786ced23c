import Maquette.Dart.Code
import Maquette.Proofs.Dart.Shift

/-!
# Code that reads as it was meant

A tree of code is printed to a text, and the text is scanned without knowing the
tree. `Expr.glyphs` says what the scan has to find; for a tidy tree it does, and
every bracket is closed, whatever texts are displayed in it.

A tree is tidy when all text in it that is taken over as code is plain: it has no
literals, no comments, and closes the brackets that it opens. This is a matter of
the code and never of the displayed texts.
-/

namespace Maquette.Dart

open Text

/-- A text of code, the glyphs that it consists of, and no bracket left open. -/
structure Legible (s : List Char) (gs : List Glyph) : Prop where
  written_eq : written gs = s
  wellFormed : wellFormed gs = true
  closed (pending : List Char) : brackets pending gs = some pending

namespace Legible

variable {s t : List Char} {gs hs : List Glyph}

theorem nil : Legible [] [] := ⟨rfl, rfl, fun _ => rfl⟩

theorem append (hgs : Legible s gs) (hhs : Legible t hs) : Legible (s ++ t) (gs ++ hs) where
  written_eq := by rw [written_append, hgs.written_eq, hhs.written_eq]
  wellFormed := wellFormed_append hgs.wellFormed hhs.wellFormed
  closed pending := by
    rw [brackets_append, hgs.closed]
    exact hhs.closed pending

theorem literal (value : List Char) : Legible (quotedChars value) [.literal value] :=
  ⟨by simp [Glyph.text], rfl, fun _ => rfl⟩

theorem blanks (margin : Nat) : Legible (List.replicate margin ' ') (blankGlyphs margin) where
  written_eq := written_blankGlyphs margin
  wellFormed := by simpa [Dart.wellFormed] using wellFormed_blankGlyphs_append margin []
  closed pending := by simpa using brackets_blankGlyphs_append pending margin []

theorem shift (margin : Nat) (hgs : Legible s gs) : Legible (hang margin s) (shift margin gs) where
  written_eq := by rw [← hgs.written_eq, hang_written margin hgs.wellFormed]
  wellFormed := by rw [wellFormed_shift, hgs.wellFormed]
  closed pending := by rw [brackets_shift, hgs.closed]

/-- Code in brackets, closed by the bracket that was opened. -/
theorem enclosed {left right : Char} (hgs : Legible s gs) (hleft : isCodeChar left = true)
    (hright : isCodeChar right = true) (hclosing : closing? left = some right)
    (hend : isClosing right = true ∧ closing? right = none) (hslash : left ≠ '/' ∧ right ≠ '/') :
    Legible (left :: (s ++ [right])) (.char left :: (gs ++ [.char right])) where
  written_eq := by simp [Glyph.text, hgs.written_eq]
  wellFormed := by
    have hlast : Dart.wellFormed [.char right] = true := by
      simp [Dart.wellFormed, hright, hslash.2]
    simp [Dart.wellFormed, hleft, hslash.1, wellFormed_append hgs.wellFormed hlast]
  closed pending := by
    have hopen : bracketsAfter pending (.char left) = some (right :: pending) := by
      simp [bracketsAfter, hclosing]
    have hlast : bracketsAfter (right :: pending) (.char right) = some pending := by
      simp [bracketsAfter, hend]
    rw [brackets_cons, hopen, Option.bind_some, brackets_append, hgs.closed, Option.bind_some,
      brackets_cons, hlast]
    rfl

theorem parenthesized (hgs : Legible s gs) :
    Legible ('(' :: (s ++ [')'])) (.char '(' :: (gs ++ [.char ')'])) :=
  hgs.enclosed (by decide) (by decide) (by decide) (by decide) (by decide)

theorem bracketed (hgs : Legible s gs) :
    Legible ('[' :: (s ++ [']'])) (.char '[' :: (gs ++ [.char ']'])) :=
  hgs.enclosed (by decide) (by decide) (by decide) (by decide) (by decide)

theorem braced (hgs : Legible s gs) :
    Legible ('\x7b' :: (s ++ ['\x7d'])) (.char '\x7b' :: (gs ++ [.char '\x7d'])) :=
  hgs.enclosed (by decide) (by decide) (by decide) (by decide) (by decide)

theorem lex_eq (hgs : Legible s gs) : lex s = some gs := by
  rw [← hgs.written_eq, lex_written hgs.wellFormed]

end Legible

/-- The characters are code as they stand, and close the brackets that they open. -/
def isPlain (s : List Char) : Bool :=
  wellFormed (chars s) && brackets [] (chars s) == some []

theorem Legible.of_isPlain {s : List Char} (h : isPlain s = true) : Legible s (chars s) := by
  rw [isPlain, Bool.and_eq_true, beq_iff_eq] at h
  exact ⟨written_chars s, h.1, brackets_eq_of_balanced h.2⟩

/-- The text is code as it stands, and closes the brackets that it opens. -/
def Plain (text : String) : Prop :=
  Legible text.toList (chars text.toList)

theorem plain_ofList {s : List Char} (h : isPlain s = true) : Plain (String.ofList s) := by
  rw [Plain, String.toList_ofList]
  exact Legible.of_isPlain h

theorem Plain.append {text more : String} (htext : Plain text) (hmore : Plain more) :
    Plain (text ++ more) := by
  rw [Plain, String.toList_append, chars_append]
  exact Legible.append htext hmore

/-- The glyphs of a text that is a whole line. -/
def lineGlyphs (text : String) : List Glyph :=
  (lex text.toList).getD []

mutual

/-- What a scan finds in the text of an expression. -/
def Expr.glyphs (column : Nat) : Expr → List Glyph
  | .code text => chars text.toList
  | .broken first more => chars (first ++ continuation column more).toList
  | .text value => [.literal value.toList]
  | .apply callee argument =>
    chars callee.toList ++ .char '(' :: (argument.glyphs column ++ [.char ')'])
  | .call callee arguments =>
    chars callee.toList ++
      .char '(' :: (.char '\n' :: argumentGlyphs (column + 2) arguments ++ blankGlyphs column ++
        [.char ')'])
  | .list items =>
    .char '[' :: (.char '\n' :: itemGlyphs (column + 2) items ++ blankGlyphs column ++ [.char ']'])
  | .rows items =>
    .char '[' :: (.char '\n' :: chars (rowLines items).toList ++ blankGlyphs column ++ [.char ']'])
  | .closure parameters body =>
    chars parameters.toList ++ .char ' ' ::
      .char '\x7b' :: (.char '\n' :: bodyGlyphs (column + 2) body ++ blankGlyphs column ++
        [.char '\x7d'])
  | .moved value => shift column (value.glyphs 0)

/-- What a scan finds in the arguments of a call. -/
def argumentGlyphs (column : Nat) : List Argument → List Glyph
  | [] => []
  | .positional value :: rest =>
    blankGlyphs column ++ value.glyphs column ++ chars [',', '\n'] ++ argumentGlyphs column rest
  | .named label value :: rest =>
    blankGlyphs column ++ chars label.toList ++ chars [':', ' '] ++ value.glyphs column ++
      chars [',', '\n'] ++ argumentGlyphs column rest

/-- What a scan finds in the items of a list. -/
def itemGlyphs (column : Nat) : List Expr → List Glyph
  | [] => []
  | item :: rest =>
    blankGlyphs column ++ item.glyphs column ++ chars [',', '\n'] ++ itemGlyphs column rest

/-- What a scan finds in the statements of a body. -/
def bodyGlyphs (column : Nat) : List Statement → List Glyph
  | [] => []
  | .line text :: rest =>
    blankGlyphs column ++ (lineGlyphs text ++ [.char '\n']) ++ bodyGlyphs column rest
  | .result value :: rest =>
    blankGlyphs column ++ chars "return ".toList ++ value.glyphs column ++ chars [';', '\n'] ++
      bodyGlyphs column rest
  | .block head body :: rest =>
    blankGlyphs column ++ chars head.toList ++ .char ' ' ::
      .char '\x7b' :: (.char '\n' :: bodyGlyphs (column + 2) body ++ blankGlyphs column ++
        [.char '\x7d']) ++ [.char '\n'] ++ bodyGlyphs column rest
  | .gap :: rest => .char '\n' :: bodyGlyphs column rest

end

mutual

/-- All text of an expression that is taken over as code is plain. -/
def Expr.Tidy : Expr → Prop
  | .code text => Plain text
  | .broken first more => ∀ column, Plain (first ++ continuation column more)
  | .text _ => True
  | .apply callee argument => Plain callee ∧ argument.Tidy
  | .call callee arguments => Plain callee ∧ TidyArguments arguments
  | .list items => TidyItems items
  | .rows items => Plain (rowLines items)
  | .closure parameters body => Plain parameters ∧ TidyBody body
  | .moved value => value.Tidy

/-- All text of some arguments that is taken over as code is plain. -/
def TidyArguments : List Argument → Prop
  | [] => True
  | .positional value :: rest => value.Tidy ∧ TidyArguments rest
  | .named label value :: rest => Plain label ∧ value.Tidy ∧ TidyArguments rest

/-- All text of some items that is taken over as code is plain. -/
def TidyItems : List Expr → Prop
  | [] => True
  | item :: rest => item.Tidy ∧ TidyItems rest

/-- All text of some statements that is taken over as code is plain. -/
def TidyBody : List Statement → Prop
  | [] => True
  | .line text :: rest =>
    Legible (text.toList ++ ['\n']) (lineGlyphs text ++ [.char '\n']) ∧ TidyBody rest
  | .result value :: rest => value.Tidy ∧ TidyBody rest
  | .block head body :: rest => Plain head ∧ TidyBody body ∧ TidyBody rest
  | .gap :: rest => TidyBody rest

end

attribute [simp] Expr.Tidy TidyArguments TidyItems TidyBody

theorem toList_spaces (n : Nat) : (spaces n).toList = List.replicate n ' ' :=
  String.toList_ofList

namespace Legible

theorem newline : Legible ['\n'] [.char '\n'] := of_isPlain (s := ['\n']) (by decide)

theorem comma : Legible [',', '\n'] (chars [',', '\n']) := of_isPlain (by decide)

theorem semicolon : Legible [';', '\n'] (chars [';', '\n']) := of_isPlain (by decide)

theorem colon : Legible [':', ' '] (chars [':', ' ']) := of_isPlain (by decide)

theorem space : Legible [' '] [.char ' '] := of_isPlain (s := [' ']) (by decide)

theorem return_ : Plain "return " := plain_ofList (by decide)

end Legible

theorem tidyArguments_append {arguments more : List Argument} (h : TidyArguments arguments)
    (hmore : TidyArguments more) : TidyArguments (arguments ++ more) := by
  induction arguments with
  | nil => exact hmore
  | cons argument rest ih =>
    cases argument with
    | positional value => exact ⟨h.1, ih h.2⟩
    | named label value => exact ⟨h.1, h.2.1, ih h.2.2⟩

theorem tidyBody_append {body more : List Statement} (h : TidyBody body) (hmore : TidyBody more) :
    TidyBody (body ++ more) := by
  induction body with
  | nil => exact hmore
  | cons statement rest ih =>
    cases statement with
    | line text => exact ⟨h.1, ih h.2⟩
    | result value => exact ⟨h.1, ih h.2⟩
    | block head inside => exact ⟨h.1, h.2.1, ih h.2.2⟩
    | gap => exact ih h

/-- A plain line is read as its characters. -/
theorem Plain.lineGlyphs_eq {text : String} (h : Plain text) :
    lineGlyphs text = chars text.toList := by
  rw [lineGlyphs, h.lex_eq]
  rfl

theorem Plain.legible_line {text : String} (h : Plain text) :
    Legible (text.toList ++ ['\n']) (lineGlyphs text ++ [.char '\n']) := by
  rw [h.lineGlyphs_eq]
  exact Legible.append h Legible.newline

theorem literals_lineGlyphs_ofList (s : List Char) :
    literals (lineGlyphs (String.ofList s)) = literals ((lex s).getD []) := by
  rw [lineGlyphs, String.toList_ofList]

/-- The characters are a line of code of their own, with the literals and the
comment that may be in it. -/
def isLine (s : List Char) : Bool :=
  match lex s with
  | some gs =>
    written gs == s && wellFormed (gs ++ [.char '\n']) && brackets [] gs == some []
  | none => false

theorem legible_line_ofList {s : List Char} (h : isLine s = true) :
    Legible ((String.ofList s).toList ++ ['\n'])
      (lineGlyphs (String.ofList s) ++ [.char '\n']) := by
  unfold isLine at h
  rw [lineGlyphs, String.toList_ofList]
  cases hlex : lex s with
  | none => simp [hlex] at h
  | some gs =>
    simp only [hlex, Bool.and_eq_true, beq_iff_eq] at h
    obtain ⟨⟨hwritten, hwf⟩, hbrackets⟩ := h
    refine ⟨by simp [hwritten, Glyph.text], hwf, fun pending => ?_⟩
    have hgs : brackets pending gs = some pending := brackets_append_pending hbrackets pending
    rw [Option.getD_some, brackets_append, hgs]
    rfl

mutual

/-- The text of a tidy expression is read as what the expression is. -/
theorem Expr.legible_print (column : Nat) :
    ∀ e : Expr, e.Tidy → Legible (e.print column).toList (e.glyphs column)
  | .code _, h => h
  | .broken _ _, h => h column
  | .text value, _ => by
    simpa [Expr.print, quoted, Expr.glyphs] using Legible.literal value.toList
  | .apply callee argument, h => by
    have hargument := (argument.legible_print column h.2).parenthesized
    simpa [Expr.print, Expr.glyphs] using Legible.append h.1 hargument
  | .call callee arguments, h => by
    have hlines := Legible.newline.append (legible_printArguments (column + 2) arguments h.2)
    have hinside := (hlines.append (Legible.blanks column)).parenthesized
    simpa [Expr.print, Expr.glyphs, toList_spaces] using Legible.append h.1 hinside
  | .list items, h => by
    have hlines := Legible.newline.append (legible_printItems (column + 2) items h)
    have hinside := (hlines.append (Legible.blanks column)).bracketed
    simpa [Expr.print, Expr.glyphs, toList_spaces] using hinside
  | .rows items, h => by
    have hinside := ((Legible.newline.append h).append (Legible.blanks column)).bracketed
    simpa [Expr.print, Expr.glyphs, toList_spaces] using hinside
  | .closure parameters body, h => by
    have hlines := Legible.newline.append (legible_printBody (column + 2) body h.2)
    have hinside := (hlines.append (Legible.blanks column)).braced
    simpa [Expr.print, Expr.glyphs, toList_spaces] using
      Legible.append h.1 (Legible.space.append hinside)
  | .moved value, h => by
    simpa [Expr.print, Expr.glyphs] using (value.legible_print 0 h).shift column

theorem legible_printArguments (column : Nat) :
    ∀ arguments : List Argument, TidyArguments arguments →
      Legible (printArguments column arguments).toList (argumentGlyphs column arguments)
  | [], _ => Legible.nil
  | .positional value :: rest, h => by
    have hvalue := (Legible.blanks column).append (value.legible_print column h.1)
    have hrest := legible_printArguments column rest h.2
    simpa [printArguments, argumentGlyphs, toList_spaces] using
      (hvalue.append Legible.comma).append hrest
  | .named label value :: rest, h => by
    have hlabel := ((Legible.blanks column).append h.1).append Legible.colon
    have hvalue := hlabel.append (value.legible_print column h.2.1)
    have hrest := legible_printArguments column rest h.2.2
    simpa [printArguments, argumentGlyphs, toList_spaces] using
      (hvalue.append Legible.comma).append hrest

theorem legible_printItems (column : Nat) :
    ∀ items : List Expr, TidyItems items →
      Legible (printItems column items).toList (itemGlyphs column items)
  | [], _ => Legible.nil
  | item :: rest, h => by
    have hitem := (Legible.blanks column).append (item.legible_print column h.1)
    have hrest := legible_printItems column rest h.2
    simpa [printItems, itemGlyphs, toList_spaces] using (hitem.append Legible.comma).append hrest

theorem legible_printBody (column : Nat) :
    ∀ body : List Statement, TidyBody body →
      Legible (printBody column body).toList (bodyGlyphs column body)
  | [], _ => Legible.nil
  | .line text :: rest, h => by
    have hline := (Legible.blanks column).append h.1
    have hrest := legible_printBody column rest h.2
    simpa [printBody, bodyGlyphs, toList_spaces] using hline.append hrest
  | .result value :: rest, h => by
    have hreturn := (Legible.blanks column).append Legible.return_
    have hvalue := hreturn.append (value.legible_print column h.1)
    have hrest := legible_printBody column rest h.2
    simpa [printBody, bodyGlyphs, toList_spaces] using
      (hvalue.append Legible.semicolon).append hrest
  | .block head body :: rest, h => by
    have hhead := ((Legible.blanks column).append h.1).append Legible.space
    have hlines := Legible.newline.append (legible_printBody (column + 2) body h.2.1)
    have hinside := (hlines.append (Legible.blanks column)).braced
    have hrest := legible_printBody column rest h.2.2
    simpa [printBody, bodyGlyphs, toList_spaces] using
      ((hhead.append hinside).append Legible.newline).append hrest
  | .gap :: rest, h => by
    simpa [printBody, bodyGlyphs] using Legible.newline.append (legible_printBody column rest h)

end

end Maquette.Dart
