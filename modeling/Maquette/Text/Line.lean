import Maquette.Text.Blank

/-!
# Lines and indentation

A text is cut into lines at every Unicode line boundary, and each line keeps the
boundary that ends it, so the lines of a text concatenate to the text. Moving a
text to the right puts spaces in front of each line that is not blank.

`indent` moves every line; `hang` leaves the first one where it is, which is
what happens to a text that continues a line already begun.
-/

namespace Maquette.Text

/-- The characters that end a line. A carriage return and a line feed after it
are one boundary. -/
def lineBoundaries : CharSet := ⟨[
    (0xa, 0xd), (0x1c, 0x1e), (0x85, 0x85), (0x2028, 0x2029)]⟩

/-- The character ends a line. -/
def isLineBoundary (c : Char) : Bool :=
  lineBoundaries.contains c

/-- The lines of a text, each with the boundary that ends it. -/
def lines : List Char → List (List Char)
  | [] => []
  | '\r' :: '\n' :: rest => ['\r', '\n'] :: lines rest
  | c :: rest =>
    if isLineBoundary c then [c] :: lines rest
    else
      match lines rest with
      | [] => [[c]]
      | line :: more => (c :: line) :: more

/-- A line moved to the right by a margin; a blank line stays as it is. -/
def indentLine (margin : Nat) (line : List Char) : List Char :=
  if line.all isBlank then line else List.replicate margin ' ' ++ line

/-- Every line moved to the right. -/
def indent (margin : Nat) (s : List Char) : List Char :=
  (lines s).flatMap (indentLine margin)

/-- Every line but the first moved to the right. -/
def hang (margin : Nat) (s : List Char) : List Char :=
  match lines s with
  | [] => []
  | first :: more => first ++ more.flatMap (indentLine margin)

/-- The margin of an indentation level: two columns each, none below zero. -/
def levelMargin (level : Int) : Nat :=
  (2 * level).toNat

/-- The number of lines of a text when only line feeds count, the last line
being the one after the last line feed. -/
def lineCount (s : List Char) : Nat :=
  (pieces (· == '\n') s).length

/-- The text of a file: every line end is a line feed, whichever of the three ways
it is written in. -/
def plainLineEnds : List Char → List Char
  | [] => []
  | '\r' :: '\n' :: rest => '\n' :: plainLineEnds rest
  | c :: rest => (if c = '\r' then '\n' else c) :: plainLineEnds rest

@[simp] theorem lines_nil : lines [] = [] := by
  simp [lines]

/-- Nothing is lost when a text is cut into lines. -/
theorem flatten_lines (s : List Char) : (lines s).flatten = s := by
  fun_induction lines s with
  | case1 => rfl
  | case2 rest ih => simp [ih]
  | case3 c rest _ _ ih => simp [ih]
  | case4 c rest _ _ h ih => simp [h] at ih; simp [← ih]
  | case5 c rest _ _ line more h ih => simp [h] at ih; simp [← ih]

theorem lineCount_eq (s : List Char) : lineCount s = s.count '\n' + 1 := by
  simp [lineCount, length_pieces, List.count]

end Maquette.Text
