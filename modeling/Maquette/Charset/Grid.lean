/-!
# Grids of characters

A set with many characters arranges them in a grid: one byte says in which row a
character stands, another one in which column. Cells that no character has are
filled with the replacement character, which stands in no grid.
-/

namespace Maquette.Charset

/-- A grid of characters: its rows by the byte that leads to them, and the byte
that leads to the first column. -/
structure Grid where
  column : Nat
  rows : List (Nat × String)

namespace Grid

/-- What fills a cell without a character. -/
def gap : Char := '\ufffd'

/-- The character in a cell. -/
def char? (grid : Grid) (row column : Nat) : Option Char :=
  if column < grid.column then none
  else
    match List.lookup row grid.rows with
    | none => none
    | some chars => (chars.toList[column - grid.column]?).filter (· ≠ gap)

/-- The character in a cell, as a text. -/
def text (grid : Grid) (row column : Nat) : List Char :=
  (grid.char? row column).toList

theorem char?_ne_gap (grid : Grid) (row column : Nat) : grid.char? row column ≠ some gap := by
  unfold char?
  split
  · simp
  · split <;> simp [Option.filter_eq_some_iff]

end Grid

def firstText (readings : List (List Char)) : List Char :=
  (readings.find? (!·.isEmpty)).getD []

end Maquette.Charset
