import Maquette.Dart.Literal
import Maquette.Text.Line

/-!
# Scanning Dart code

What a Dart scanner sees of generated code: characters outside of literals, the
values of literals in single quotes, and comments up to the end of their line.
`scan` reads a text from left to right and gives nothing as soon as the text
leaves this part of Dart: a literal that is not closed on its line, a dollar
sign in a literal that starts an interpolation, an escape of a code point, a
literal in double quotes, or a comment in the other form.

The code that is printed is put together from pieces, so the scan is described
on pieces too. A list of glyphs is well formed when none of its glyphs can join
with what comes after it: a slash and the character after it are in the same
list, and so are a comment and the end of its line. Then scanning what is written
gives the glyphs back, whatever text follows.
-/

namespace Maquette.Dart

/-- What a scanner tells apart: a character of the code, the value of a literal,
and the text of a comment. -/
inductive Glyph
  | char (c : Char)
  | literal (value : List Char)
  | comment (text : List Char)
deriving DecidableEq

/-- The text of a glyph. -/
def Glyph.text : Glyph → List Char
  | char c => [c]
  | literal value => quotedChars value
  | comment text => '/' :: '/' :: text

/-- The text of a list of glyphs. -/
def written (gs : List Glyph) : List Char :=
  gs.flatMap Glyph.text

/-- What a scanner is in the middle of. -/
inductive Mode
  | code
  | slash
  | literal (value : List Char)
  | escape (value : List Char)
  | comment (text : List Char)

/-- The character that a backslash and a character stand for. The escapes that
spell out a code point, and an escaped end of line, are left out. -/
def escaped? (c : Char) : Option Char :=
  if c = 'n' then some '\n'
  else if c = 'r' then some '\r'
  else if c = 't' then some '\t'
  else if c = 'b' then some '\x08'
  else if c = 'f' then some '\x0c'
  else if c = 'v' then some '\x0b'
  else if c = 'x' ∨ c = 'u' ∨ c = '\r' ∨ c = '\n' then none
  else some c

/-- The glyphs of a text, from the middle of what was begun. -/
@[simp] def scan : Mode → List Char → Option (List Glyph)
  | .code, [] => some []
  | .slash, [] => some [.char '/']
  | .literal _, [] => none
  | .escape _, [] => none
  | .comment text, [] => some [.comment text]
  | .code, c :: rest =>
    if c = '\'' then scan (.literal []) rest
    else if c = '\x22' then none
    else if c = '/' then scan .slash rest
    else (scan .code rest).map (.char c :: ·)
  | .slash, c :: rest =>
    if c = '/' then scan (.comment []) rest
    else if c = '*' ∨ c = '\x22' then none
    else if c = '\'' then (scan (.literal []) rest).map (.char '/' :: ·)
    else (scan .code rest).map (.char '/' :: .char c :: ·)
  | .literal value, c :: rest =>
    if c = '\'' then (scan .code rest).map (.literal value :: ·)
    else if c = '\\' then scan (.escape value) rest
    else if c = '$' ∨ c = '\r' ∨ c = '\n' then none
    else scan (.literal (value ++ [c])) rest
  | .escape value, c :: rest =>
    match escaped? c with
    | some escaped => scan (.literal (value ++ [escaped])) rest
    | none => none
  | .comment text, c :: rest =>
    if c = '\r' ∨ c = '\n' then (scan .code rest).map (.comment text :: .char c :: ·)
    else scan (.comment (text ++ [c])) rest

/-- The glyphs of a text. -/
def lex (s : List Char) : Option (List Glyph) :=
  scan .code s

/-- The values of the literals, in order. -/
def literals (gs : List Glyph) : List (List Char) :=
  gs.filterMap fun
    | .literal value => some value
    | _ => none

/-- The glyphs with the values of all literals taken out. -/
def erase (gs : List Glyph) : List Glyph :=
  gs.map fun
    | .literal _ => .literal []
    | g => g

/-- The bracket that closes an opening bracket. -/
def closing? (c : Char) : Option Char :=
  if c = '(' then some ')'
  else if c = '[' then some ']'
  else if c = '\x7b' then some '\x7d'
  else none

/-- The character closes a bracket. -/
def isClosing (c : Char) : Bool :=
  c == ')' || c == ']' || c == '\x7d'

/-- The brackets that are still to be closed after a glyph, the innermost first. -/
def bracketsAfter (pending : List Char) : Glyph → Option (List Char)
  | .char c =>
    match closing? c with
    | some close => some (close :: pending)
    | none =>
      if isClosing c then
        match pending with
        | [] => none
        | innermost :: outer => if innermost = c then some outer else none
      else some pending
  | _ => some pending

/-- The brackets that are still to be closed after a list of glyphs; none if a
bracket closes that is not the innermost open one. -/
def brackets (pending : List Char) (gs : List Glyph) : Option (List Char) :=
  gs.foldlM bracketsAfter pending

/-- A character that may stand outside of literals and comments. -/
def isCodeChar (c : Char) : Bool :=
  c != '\'' && c != '\x22' && (!Text.isLineBoundary c || c == '\n')

/-- After a slash, the list goes on with a character that makes no comment. -/
def dividesBy : List Glyph → Bool
  | .char c :: _ => c != '/' && c != '*'
  | _ => false

/-- The list begins a new line. -/
def endsLine : List Glyph → Bool
  | .char c :: _ => c == '\n'
  | _ => false

/-- No glyph of the list can be mistaken for another one, whatever follows. -/
@[simp] def wellFormed : List Glyph → Bool
  | [] => true
  | .char c :: rest => isCodeChar c && (c != '/' || dividesBy rest) && wellFormed rest
  | .literal _ :: rest => wellFormed rest
  | .comment text :: rest =>
    text.all (fun c => !Text.isLineBoundary c) && endsLine rest && wellFormed rest

/-- The characters of a text as glyphs. -/
def chars (s : List Char) : List Glyph :=
  s.map .char

@[simp] theorem written_nil : written [] = [] := rfl

@[simp] theorem written_cons (g : Glyph) (gs : List Glyph) :
    written (g :: gs) = g.text ++ written gs := rfl

@[simp] theorem written_append (gs hs : List Glyph) :
    written (gs ++ hs) = written gs ++ written hs :=
  List.flatMap_append

@[simp] theorem written_chars (s : List Char) : written (chars s) = s := by
  induction s with
  | nil => rfl
  | cons c s ih => exact congrArg (c :: ·) ih

@[simp] theorem chars_append (s t : List Char) : chars (s ++ t) = chars s ++ chars t :=
  List.map_append

@[simp] theorem literals_nil : literals [] = [] := rfl

@[simp] theorem literals_append (gs hs : List Glyph) :
    literals (gs ++ hs) = literals gs ++ literals hs :=
  List.filterMap_append

@[simp] theorem literals_char_cons (c : Char) (gs : List Glyph) :
    literals (.char c :: gs) = literals gs := rfl

@[simp] theorem literals_literal_cons (value : List Char) (gs : List Glyph) :
    literals (.literal value :: gs) = value :: literals gs := rfl

@[simp] theorem literals_comment_cons (text : List Char) (gs : List Glyph) :
    literals (.comment text :: gs) = literals gs := rfl

@[simp] theorem literals_chars (s : List Char) : literals (chars s) = [] := by
  induction s with
  | nil => rfl
  | cons c s ih => exact ih

@[simp] theorem erase_nil : erase [] = [] := rfl

@[simp] theorem erase_append (gs hs : List Glyph) : erase (gs ++ hs) = erase gs ++ erase hs :=
  List.map_append

@[simp] theorem erase_char_cons (c : Char) (gs : List Glyph) :
    erase (.char c :: gs) = .char c :: erase gs := rfl

@[simp] theorem erase_literal_cons (value : List Char) (gs : List Glyph) :
    erase (.literal value :: gs) = .literal [] :: erase gs := rfl

@[simp] theorem erase_comment_cons (text : List Char) (gs : List Glyph) :
    erase (.comment text :: gs) = .comment text :: erase gs := rfl

@[simp] theorem erase_chars (s : List Char) : erase (chars s) = chars s := by
  induction s with
  | nil => rfl
  | cons c s ih => exact congrArg (.char c :: ·) ih

@[simp] theorem brackets_nil (pending : List Char) : brackets pending [] = some pending := rfl

theorem brackets_cons (pending : List Char) (g : Glyph) (gs : List Glyph) :
    brackets pending (g :: gs) =
      (bracketsAfter pending g).bind fun after => brackets after gs := rfl

theorem brackets_append (pending : List Char) (gs hs : List Glyph) :
    brackets pending (gs ++ hs) = (brackets pending gs).bind fun after => brackets after hs :=
  List.foldlM_append

/-- Brackets that were open before stay as they are. -/
theorem brackets_append_pending {pending after : List Char} {gs : List Glyph}
    (h : brackets pending gs = some after) (outer : List Char) :
    brackets (pending ++ outer) gs = some (after ++ outer) := by
  induction gs generalizing pending with
  | nil =>
    obtain rfl : pending = after := Option.some.inj h
    rfl
  | cons g gs ih =>
    rw [brackets_cons] at h ⊢
    obtain ⟨between, hg, hgs⟩ := Option.bind_eq_some_iff.1 h
    have hstep : bracketsAfter (pending ++ outer) g = some (between ++ outer) := by
      cases g with
      | literal value => exact congrArg (fun b => some (b ++ outer)) (Option.some.inj hg)
      | comment text => exact congrArg (fun b => some (b ++ outer)) (Option.some.inj hg)
      | char c =>
        simp only [bracketsAfter] at hg ⊢
        cases hc : closing? c with
        | some close =>
          rw [hc] at hg
          exact congrArg (fun b => some (b ++ outer)) (Option.some.inj hg)
        | none =>
          rw [hc] at hg
          by_cases hclosing : isClosing c = true
          · simp only [hclosing, if_true] at hg ⊢
            cases pending with
            | nil => exact absurd hg (by simp)
            | cons innermost rest =>
              by_cases hsame : innermost = c
              · simp only [hsame, if_true] at hg
                simp [hsame, Option.some.inj hg]
              · simp [hsame] at hg
          · simp only [hclosing] at hg ⊢
            exact congrArg (fun b => some (b ++ outer)) (Option.some.inj hg)
    rw [hstep]
    exact ih hgs

/-- Glyphs that close the brackets that they open do so inside of any others. -/
theorem brackets_eq_of_balanced {gs : List Glyph} (h : brackets [] gs = some [])
    (pending : List Char) : brackets pending gs = some pending :=
  brackets_append_pending h pending

/-- A character of a displayed text is escaped, and then the escape stands for it,
or it stands for itself and has no meaning of its own in a literal. -/
theorem quotedChar_cases (c : Char) :
    (∃ d, quotedChar c = ['\\', d] ∧ escaped? d = some c ∧ Text.isBlank d = false ∧
      (Text.isBlank c = false ∨ c = '\r' ∨ c = '\n')) ∨
    (quotedChar c = [c] ∧ c ≠ '\\' ∧ c ≠ '\'' ∧ ¬ (c = '$' ∨ c = '\r' ∨ c = '\n')) := by
  by_cases h₁ : c = '\\'
  · subst h₁
    exact .inl ⟨'\\', by decide⟩
  by_cases h₂ : c = '\''
  · subst h₂
    exact .inl ⟨'\'', by decide⟩
  by_cases h₃ : c = '$'
  · subst h₃
    exact .inl ⟨'$', by decide⟩
  by_cases h₄ : c = '\r'
  · subst h₄
    exact .inl ⟨'r', by decide⟩
  by_cases h₅ : c = '\n'
  · subst h₅
    exact .inl ⟨'n', by decide⟩
  exact .inr ⟨by simp [quotedChar, h₁, h₂, h₃, h₄, h₅], h₁, h₂, by simp [h₃, h₄, h₅]⟩

/-- A displayed text in the middle of its literal. -/
theorem scan_literal (value rest soFar : List Char) :
    scan (.literal soFar) (value.flatMap quotedChar ++ '\'' :: rest) =
      (scan .code rest).map (.literal (soFar ++ value) :: ·) := by
  induction value generalizing soFar with
  | nil => simp [scan]
  | cons c value ih =>
    have hstep (s : List Char) : scan (.literal soFar) (quotedChar c ++ s) =
        scan (.literal (soFar ++ [c])) s := by
      rcases quotedChar_cases c with ⟨d, hquoted, hescaped, -, -⟩ | ⟨hquoted, h₁, h₂, h₃⟩
      · simp [hquoted, scan, hescaped]
      · rw [hquoted, List.singleton_append, scan, if_neg h₂, if_neg h₁, if_neg h₃]
    rw [List.flatMap_cons, List.append_assoc, hstep, ih, List.append_assoc, List.singleton_append]

/-- The literal of a displayed text gives the text back: the round trip of the
two ways that it is written. -/
theorem scan_quotedChars (value rest : List Char) :
    scan .code (quotedChars value ++ rest) = (scan .code rest).map (.literal value :: ·) := by
  have hopen : quotedChars value ++ rest =
      '\'' :: (value.flatMap quotedChar ++ '\'' :: rest) := by simp [quotedChars]
  rw [hopen, scan, if_pos rfl, scan_literal, List.nil_append]

theorem scan_char {c : Char} (hcode : isCodeChar c = true) (hslash : c ≠ '/') (rest : List Char) :
    scan .code (c :: rest) = (scan .code rest).map (.char c :: ·) := by
  simp only [isCodeChar, Bool.and_eq_true, bne_iff_ne] at hcode
  rw [scan, if_neg hcode.1.1, if_neg hcode.1.2, if_neg hslash]

/-- A comment up to the end of its line. -/
theorem scan_comment (text rest soFar : List Char)
    (h : text.all (fun c => !Text.isLineBoundary c) = true) :
    scan (.comment soFar) (text ++ '\n' :: rest) =
      (scan .code ('\n' :: rest)).map (.comment (soFar ++ text) :: ·) := by
  induction text generalizing soFar with
  | nil =>
    rw [scan_char (by decide) (by decide), Option.map_map]
    simp [scan, Function.comp_def]
  | cons c text ih =>
    rw [List.all_cons, Bool.and_eq_true] at h
    have hline : ¬ (c = '\r' ∨ c = '\n') := by
      rintro (rfl | rfl) <;> exact absurd h.1 (by decide)
    have hstep : scan (.comment soFar) (c :: (text ++ '\n' :: rest)) =
        scan (.comment (soFar ++ [c])) (text ++ '\n' :: rest) := by rw [scan, if_neg hline]
    rw [List.cons_append, hstep, ih _ h.2, List.append_assoc, List.singleton_append]

/-- A slash that divides: the character after it makes no comment. -/
theorem scan_slash {c : Char} (hcode : isCodeChar c = true) (hslash : c ≠ '/') (hstar : c ≠ '*')
    (rest : List Char) :
    scan .code ('/' :: c :: rest) = (scan .code (c :: rest)).map (.char '/' :: ·) := by
  have hopen : scan .code ('/' :: c :: rest) = scan .slash (c :: rest) := by
    rw [scan, if_neg (by decide), if_neg (by decide), if_pos rfl]
  rw [hopen, scan_char hcode hslash]
  simp only [isCodeChar, Bool.and_eq_true, bne_iff_ne] at hcode
  rw [scan, if_neg hslash, if_neg (not_or.2 ⟨hstar, hcode.1.2⟩), if_neg hcode.1.1, Option.map_map]
  rfl

theorem exists_of_endsLine {gs : List Glyph} (h : endsLine gs = true) :
    ∃ rest, gs = .char '\n' :: rest := by
  cases gs with
  | nil => simp [endsLine] at h
  | cons g rest =>
    cases g with
    | char c => exact ⟨rest, by simpa [endsLine] using h⟩
    | literal _ => simp [endsLine] at h
    | comment _ => simp [endsLine] at h

theorem exists_of_dividesBy (gs : List Glyph) (h : dividesBy gs = true) :
    ∃ c rest, gs = .char c :: rest ∧ c ≠ '/' ∧ c ≠ '*' := by
  cases gs with
  | nil => simp [dividesBy] at h
  | cons g rest =>
    cases g with
    | char c => exact ⟨c, rest, rfl, by simpa [dividesBy] using h⟩
    | literal _ => simp [dividesBy] at h
    | comment _ => simp [dividesBy] at h

/-- Scanning what well-formed glyphs write gives them back, and the scan goes on
in the code after them. -/
theorem scan_written_append {gs : List Glyph} (h : wellFormed gs = true) (rest : List Char) :
    scan .code (written gs ++ rest) = (scan .code rest).map (gs ++ ·) := by
  induction gs with
  | nil => cases hrest : scan .code rest <;> simp [hrest]
  | cons g gs ih =>
    have hcons : Option.map (g :: gs ++ ·) (scan .code rest) =
        ((scan .code rest).map (gs ++ ·)).map (g :: ·) := by rw [Option.map_map]; rfl
    rw [hcons, written_cons, List.append_assoc]
    cases g with
    | literal value => rw [Glyph.text, scan_quotedChars, ih h]
    | comment text =>
      simp only [wellFormed, Bool.and_eq_true] at h
      obtain ⟨⟨htext, hline⟩, hgs⟩ := h
      rw [← ih hgs]
      obtain ⟨gs', rfl⟩ := exists_of_endsLine hline
      have hopen (s : List Char) : scan .code ('/' :: '/' :: s) = scan (.comment []) s := by
        simp [scan]
      simpa [Glyph.text, hopen] using scan_comment text (written gs' ++ rest) [] htext
    | char c =>
      simp only [wellFormed, Bool.and_eq_true] at h
      obtain ⟨⟨hcode, hslash⟩, hgs⟩ := h
      rw [← ih hgs]
      by_cases hc : c = '/'
      · subst hc
        obtain ⟨c', gs', rfl, hne, hstar⟩ := exists_of_dividesBy gs (by simpa using hslash)
        simp only [wellFormed, Bool.and_eq_true] at hgs
        exact scan_slash hgs.1.1 hne hstar _
      · exact scan_char hcode hc _

theorem lex_written {gs : List Glyph} (h : wellFormed gs = true) : lex (written gs) = some gs := by
  have hscan := scan_written_append h []
  simpa [lex, scan] using hscan

theorem wellFormed_append {gs hs : List Glyph} (hgs : wellFormed gs = true)
    (hhs : wellFormed hs = true) : wellFormed (gs ++ hs) = true := by
  induction gs with
  | nil => exact hhs
  | cons g gs ih =>
    cases g with
    | literal value => exact ih hgs
    | comment text =>
      simp only [wellFormed, Bool.and_eq_true] at hgs
      obtain ⟨⟨htext, hline⟩, hrest⟩ := hgs
      have ih' := ih hrest
      obtain ⟨gs', rfl⟩ := exists_of_endsLine hline
      simp only [List.cons_append, wellFormed, Bool.and_eq_true] at ih' ⊢
      exact ⟨⟨htext, hline⟩, ih'⟩
    | char c =>
      simp only [wellFormed, Bool.and_eq_true] at hgs
      obtain ⟨⟨hcode, hslash⟩, hrest⟩ := hgs
      have ih' := ih hrest
      rw [List.cons_append]
      simp only [wellFormed, Bool.and_eq_true]
      refine ⟨⟨hcode, ?_⟩, ih'⟩
      rw [Bool.or_eq_true] at hslash ⊢
      refine hslash.imp_right fun hdivides => ?_
      obtain ⟨c', gs', rfl, hne, hstar⟩ := exists_of_dividesBy _ hdivides
      exact hdivides

end Maquette.Dart
