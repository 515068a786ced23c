import Maquette.Charset.Grid.JisX0208
import Maquette.Charset.Grid.JisX0212
import Maquette.Charset.Grid.JisX0213
import Maquette.Charset.Grid.ShiftJisWindows
import Maquette.Charset.Step

/-!
# Japanese character sets

The grids of JIS are written in two ways. The extended Unix code sets the eighth
bit of a row and a column, with further bytes in front for what is in other grids.
Shift JIS puts two rows behind each first byte, so that single bytes are left for
the narrow kana.

JIS X 0213 has two planes. Its second edition added ten characters to the first
plane and changed one in the second. Before that, a pair for one of the ten is
refused as a whole.
-/

namespace Maquette.Charset

def jisX0208Text (row column : Nat) : List Char :=
  Grid.jisX0208.text row column

def jisX0212Text (row column : Nat) : List Char :=
  Grid.jisX0212.text row column

/-- Cells of the first plane of JIS X 0213 that mean a character with a mark. -/
def jisX0213Marked : List ((Nat × Nat) × List Char) := [
  ((0x24, 0x77), ['か', '\u309a']), ((0x24, 0x78), ['き', '\u309a']),
  ((0x24, 0x79), ['く', '\u309a']), ((0x24, 0x7a), ['け', '\u309a']),
  ((0x24, 0x7b), ['こ', '\u309a']), ((0x25, 0x77), ['カ', '\u309a']),
  ((0x25, 0x78), ['キ', '\u309a']), ((0x25, 0x79), ['ク', '\u309a']),
  ((0x25, 0x7a), ['ケ', '\u309a']), ((0x25, 0x7b), ['コ', '\u309a']),
  ((0x25, 0x7c), ['セ', '\u309a']), ((0x25, 0x7d), ['ツ', '\u309a']),
  ((0x25, 0x7e), ['ト', '\u309a']), ((0x26, 0x78), ['ㇷ', '\u309a']),
  ((0x2b, 0x44), ['æ', '\u0300']), ((0x2b, 0x48), ['ɔ', '\u0300']),
  ((0x2b, 0x49), ['ɔ', '\u0301']), ((0x2b, 0x4a), ['ʌ', '\u0300']),
  ((0x2b, 0x4b), ['ʌ', '\u0301']), ((0x2b, 0x4c), ['ə', '\u0300']),
  ((0x2b, 0x4d), ['ə', '\u0301']), ((0x2b, 0x4e), ['ɚ', '\u0300']),
  ((0x2b, 0x4f), ['ɚ', '\u0301']), ((0x2b, 0x65), ['˩', '˥']),
  ((0x2b, 0x66), ['˥', '˩'])]

/-- Cells of the first plane that only the second edition of JIS X 0213 has. -/
def jisX0213Added : List (Nat × Nat) := [
  (0x2e, 0x21), (0x2f, 0x7e), (0x4f, 0x54), (0x4f, 0x7e), (0x74, 0x27), (0x7e, 0x7a),
  (0x7e, 0x7b), (0x7e, 0x7c), (0x7e, 0x7d), (0x7e, 0x7e)]

def jisX0213Lacks (second : Bool) (row column : Nat) : Bool :=
  !second && jisX0213Added.contains (row, column)

/-- The characters of a cell of the first plane of JIS X 0213, in its second edition
or its first. -/
def jisX0213FirstText (second : Bool) (row column : Nat) : List Char :=
  if jisX0213Lacks second row column then []
  else
    firstText [
      jisX0208Text row column,
      Grid.jisX0213First.text row column,
      (jisX0213Marked.lookup (row, column)).getD []]

/-- The characters of a cell of the second plane of JIS X 0213, in its second
edition. -/
def jisX0213SecondText (row column : Nat) : List Char :=
  Grid.jisX0213Second.text row column

/-- The characters of a cell of the second plane, where it is not written with
escapes. -/
def jisX0213PlainSecondText (second : Bool) (row column : Nat) : List Char :=
  if !second && (row, column) == (0x7d, 0x3b) then ['鬝'] else jisX0213SecondText row column

def narrowKana (b : Nat) : List Char :=
  if 0xa1 ≤ b ∧ b ≤ 0xdf then [Char.ofNat (0xff61 + (b - 0xa1))] else []

/-- The first byte of a pair that means a narrow kana. -/
def kanaByte : Nat := 0x8e

/-- The first of three bytes that mean a character of a second grid. -/
def secondGridByte : Nat := 0x8f

/-- The rule of an extended Unix code, which has two grids. -/
def unixRule (first second : Nat → Nat → List Char) : StepRule Unit
  | (), b, rest =>
    let eighth (grid : Nat → Nat → List Char) (c d : Nat) : List Char :=
      if 0x80 ≤ c ∧ 0x80 ≤ d then grid (c - 0x80) (d - 0x80) else []
    if b.toNat < 0x80 then .byte b
    else if b.toNat = kanaByte then .ofPair (fun _ c => narrowKana c) b rest
    else if b.toNat = secondGridByte then
      match rest with
      | c :: d :: _ =>
        match eighth second c.toNat d.toNat with
        | [] => .refused 0
        | chars => .taken 2 chars ()
      | _ => .unfinished
    else .ofPair (eighth first) b rest

def eucJpRule : StepRule Unit :=
  unixRule jisX0208Text jisX0212Text

/-- The rule of the extended Unix code for an edition of JIS X 0213. It has the wide
tilde. -/
def eucJisX0213Rule (second : Bool) : StepRule Unit
  | (), b, rest =>
    let first (row column : Nat) : List Char :=
      if row = 0x22 ∧ column = 0x32 then ['～'] else jisX0213FirstText second row column
    let beyond (row column : Nat) : List Char :=
      firstText [jisX0213PlainSecondText second row column, jisX0212Text row column]
    if rest.head?.any fun c => jisX0213Lacks second (b.toNat - 0x80) (c.toNat - 0x80) then
      .refused 1
    else unixRule first beyond () b rest

def isShiftJisLead (b : Nat) : Bool :=
  0x81 ≤ b && b ≤ 0x9f || 0xe0 ≤ b && b ≤ 0xfc

/-- The row and the column that two bytes of Shift JIS lead to, counted from zero. -/
def shiftJisCell? (b c : Nat) : Option (Nat × Nat) :=
  if !isShiftJisLead b || c < 0x40 || c = 0x7f || 0xfc < c then none
  else
    let pair := if b < 0xe0 then b - 0x81 else b - 0xc1
    let cell := if c < 0x80 then c - 0x40 else c - 0x41
    some (2 * pair + cell / 94, cell % 94)

/-- How many rows a grid has. -/
def rowCount : Nat := 94

/-- The rows of the second plane of JIS X 0213 in the order in which they follow
those of the first in Shift JIS. -/
def shiftJisSecondRows : List Nat :=
  [0x21, 0x28, 0x23, 0x24, 0x25, 0x2c, 0x2d, 0x2e, 0x2f] ++ (List.range' 0x6e 17)

/-- The characters of a pair of bytes in Shift JIS, with the cells of a first plane
and those of the rows behind it. -/
def shiftJisText (first beyond : Nat → Nat → List Char) (b c : Nat) : List Char :=
  match shiftJisCell? b c with
  | none => []
  | some (row, column) =>
    if row < rowCount then first (row + 0x21) (column + 0x21)
    else beyond (row - rowCount) (column + 0x21)

/-- The rule of a variant of Shift JIS, with what its single bytes and its pairs
mean. -/
def shiftJisRule (single : Nat → List Char) (pair : Nat → Nat → List Char) : StepRule Unit
  | (), b, rest =>
    match single b.toNat with
    | c :: _ => .char c
    | [] => if isShiftJisLead b.toNat then .ofPair pair b rest else .refused 0

/-- What a byte means in Shift JIS: ASCII or a narrow kana. -/
def shiftJisSingle (b : Nat) : List Char :=
  if b < 0x80 then [Char.ofNat b] else narrowKana b

def shiftJisX0208Rule : StepRule Unit :=
  shiftJisRule shiftJisSingle (shiftJisText jisX0208Text fun _ _ => [])

/-- What a byte means where two characters of ASCII are those of the Roman set of
JIS. -/
def romanSingle (b : Nat) : List Char :=
  if b = 0x5c then ['¥'] else if b = 0x7e then ['‾'] else shiftJisSingle b

/-- The rule of Shift JIS for an edition of JIS X 0213. It has the backslash of ASCII
where JIS X 0208 has the wide one. -/
def shiftJisX0213Rule (second : Bool) : StepRule Unit
  | (), b, rest =>
    let first (row column : Nat) : List Char :=
      if row = 0x21 ∧ column = 0x40 then ['\\'] else jisX0213FirstText second row column
    let beyond (row column : Nat) : List Char :=
      match shiftJisSecondRows[row]? with
      | none => []
      | some row => jisX0213PlainSecondText second row column
    let lacks (c : UInt8) : Bool :=
      (shiftJisCell? b.toNat c.toNat).any fun (row, column) =>
        jisX0213Lacks second (row + 0x21) (column + 0x21)
    if rest.head?.any lacks then .refused 1
    else shiftJisRule romanSingle (shiftJisText first beyond) () b rest

/-- What a byte means in code page 932. Bytes that Shift JIS does not use are
private-use characters. -/
def windowsSingle (b : Nat) : List Char :=
  if b = 0x80 then [Char.ofNat b]
  else if b = 0xa0 then [Char.ofNat 0xf8f0]
  else if 0xfd ≤ b then [Char.ofNat (0xf8f1 + (b - 0xfd))]
  else shiftJisSingle b

/-- The private-use character of a pair in the ten rows that code page 932 leaves to
its users. -/
def windowsPrivate (b c : Nat) : List Char :=
  if 0xf0 ≤ b ∧ b ≤ 0xf9 then
    match shiftJisCell? b c with
    | none => []
    | some (row, column) => [Char.ofNat (0xe000 + (row - 94) * 94 + column)]
  else []

/-- The rule of code page 932, the Shift JIS of Windows. -/
def shiftJisWindowsRule : StepRule Unit :=
  shiftJisRule windowsSingle fun b c =>
    firstText [
      Grid.shiftJisWindows.text b c,
      shiftJisText jisX0208Text (fun _ _ => []) b c,
      windowsPrivate b c]

end Maquette.Charset
