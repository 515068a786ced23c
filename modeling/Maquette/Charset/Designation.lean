import Maquette.Charset.Chinese
import Maquette.Charset.Japanese
import Maquette.Charset.Korean

/-!
# Sets with designations

ISO 2022 writes several sets in seven bits. An escape sequence designates a set to
one of three places; the bytes that follow are read in the set at the first place,
between two shifts in the one at the second, and behind a further escape a single
byte is read in the one at the third. A final byte in the sequence tells the set,
so the same byte can tell one of single bytes and one of pairs.

An escape that begins no designation stands for itself, and so do the bytes behind
it up to a capital letter.
-/

namespace Maquette.Charset

/-- A set that can be designated. -/
inductive Repertoire
  | ascii
  | jisRoman
  | jisKana
  | jisX0208
  /-- The first edition of JIS X 0208, of which only the designation differs. -/
  | jisX0208Old
  | jisX0212
  | jisX0213First (second : Bool)
  | jisX0213Second
  | gb2312
  | ksX1001
  | latin
  | greek
deriving DecidableEq

namespace Repertoire

/-- The characters of the Greek set behind the controls. -/
def greekChars : String :=
  "\u00a0‘’£\ufffd\ufffd¦§¨©\ufffd«¬\u00ad\ufffd―°±²³΄΅Ά·ΈΉΊ»Ό½ΎΏΐΑΒΓΔΕΖΗΘΙΚΛΜΝΞΟΠΡ\ufffdΣΤΥΦΧΨΩΪΫ" ++
    "άέήίΰαβγδεζηθικλμνξοπρςστυφχψωϊϋόύώ\ufffd"

/-- A set has two bytes for each character. -/
def isDouble : Repertoire → Bool
  | jisX0208 | jisX0208Old | jisX0212 | jisX0213First _ | jisX0213Second | gb2312 | ksX1001 => true
  | _ => false

/-- The byte at the end of a sequence that designates a set. -/
def finalByte : Repertoire → Char
  | ascii => 'B'
  | jisRoman => 'J'
  | jisKana => 'I'
  | jisX0208 => 'B'
  | jisX0208Old => '@'
  | jisX0212 => 'D'
  | jisX0213First second => if second then 'Q' else 'O'
  | jisX0213Second => 'P'
  | gb2312 => 'A'
  | ksX1001 => 'C'
  | latin => 'A'
  | greek => 'F'

/-- What a byte means in a set of single bytes. -/
def single : Repertoire → Nat → List Char
  | ascii, b => [Char.ofNat b]
  | jisRoman, b => romanSingle b
  | jisKana, b => narrowKana (b + 0x80)
  | _, _ => []

/-- What a pair of bytes means in a set of pairs. -/
def pair : Repertoire → Nat → Nat → List Char
  | jisX0208, b, c | jisX0208Old, b, c => jisX0208Text b c
  | jisX0212, b, c => jisX0212Text b c
  | jisX0213First second, b, c => jisX0213FirstText second b c
  | jisX0213Second, b, c => jisX0213SecondText b c
  | gb2312, b, c => Grid.gb2312.text b c
  | ksX1001, b, c => Grid.ksX1001.text b c
  | _, _, _ => []

/-- What a byte means in a set at the third place. -/
def upper : Repertoire → Nat → List Char
  | ascii, b => if b < 0x80 then [Char.ofNat b] else []
  | latin, b => if b < 0x80 then [Char.ofNat (b + 0x80)] else []
  | greek, b =>
    if b < 0x20 then [Char.ofNat (b + 0x80)]
    else if b < 0x80 then
      ((greekChars.toList[b - 0x20]?).filter (· ≠ Grid.gap)).toList
    else [Char.ofNat (b - 0x80)]
  | _, _ => []

end Repertoire

/-- A way to write texts with designations. -/
structure Designating where
  /-- The sets besides ASCII. -/
  repertoires : List Repertoire
  /-- There is a second place, with shifts to it and back. -/
  shifts : Bool := false
  /-- There is a third place. -/
  third : Bool := false
  /-- JIS X 0208 may be designated by a longer sequence too. -/
  longer : Bool := true

namespace Designating

/-- ISO-2022-JP. -/
def japanese : Designating where
  repertoires := [.jisX0208, .jisRoman, .jisX0208Old]

/-- ISO-2022-JP-1. -/
def japanese1 : Designating where
  repertoires := [.jisX0208, .jisX0212, .jisRoman, .jisX0208Old]

/-- ISO-2022-JP-2. -/
def japanese2 : Designating where
  repertoires :=
    [.jisX0208, .jisX0212, .ksX1001, .gb2312, .jisRoman, .jisX0208Old, .latin, .greek]
  third := true

/-- ISO-2022-JP with an edition of JIS X 0213. -/
def japanese0213 (second : Bool) : Designating where
  repertoires := [.jisX0208, .jisX0213First second, .jisX0213Second]

/-- ISO-2022-JP with the kana. -/
def japaneseKana : Designating where
  repertoires := [.jisX0208, .jisX0212, .jisRoman, .jisKana, .jisX0208Old]

/-- ISO-2022-KR. -/
def korean : Designating where
  repertoires := [.ksX1001]
  shifts := true
  longer := false

def repertoire? (d : Designating) (double : Bool) (final : UInt8) : Option Repertoire :=
  (.ascii :: d.repertoires).find? fun r =>
    r.isDouble == double && r.finalByte.toNat == final.toNat

end Designating

/-- What is designated, and whether bytes are shifted or stand for themselves. -/
structure Designated where
  first : Repertoire := .ascii
  second : Repertoire := .ascii
  third : Repertoire := .ascii
  shifted : Bool := false
  verbatim : Bool := false

/-- Where a sequence designates a set to. -/
inductive Place
  | first
  | second
  | third

def Designated.designate (s : Designated) (place : Place) (r : Repertoire) : Designated :=
  match place with
  | .first => { s with first := r }
  | .second => { s with second := r }
  | .third => { s with third := r }

def escapeByte : UInt8 := 0x1b

def endsEscape (b : UInt8) : Bool :=
  0x40 ≤ b.toNat && b.toNat ≤ 0x5a

/-- How an escape sequence ends. -/
inductive EscapeEnd
  | unfinished
  | endless
  /-- Its bytes behind the escape are counted. -/
  | found (further : Nat)

/-- How an escape sequence ends, given how many more bytes it may take and how many
behind the escape went before. A longer sequence has a second one inside. -/
def escapeEnd (longer : Bool) : (room seen : Nat) → List UInt8 → EscapeEnd
  | 0, _, _ => .endless
  | _, _, [] => .unfinished
  | room + 1, seen, b :: rest =>
    if endsEscape b then .found (seen + 1)
    else
      match longer, b, rest with
      | true, 0x26, 0x40 :: inner => escapeEnd longer (room - 2) (seen + 3) (inner.drop 1)
      | _, _, _ => escapeEnd longer room (seen + 1) rest
termination_by room => room
decreasing_by all_goals omega

namespace Designating

/-- The place and the set that an escape sequence designates, without its escape. -/
def designation? (d : Designating) : List UInt8 → Option (Place × Repertoire)
  | [0x24, final] => (d.repertoire? true final).map (.first, ·)
  | [0x28, final] => (d.repertoire? false final).map (.first, ·)
  | [0x29, final] => (d.repertoire? false final).map (.second, ·)
  | [0x2e, final] => if d.third then (d.repertoire? false final).map (.third, ·) else none
  | [0x24, 0x28, final] => (d.repertoire? true final).map (.first, ·)
  | [0x24, 0x29, final] => (d.repertoire? true final).map (.second, ·)
  | [_, _, 0x1b, 0x24, 0x42] => if d.longer then some (.first, .jisX0208) else none
  | _ => none

/-- A byte behind an escape that begins a designation. -/
def beginsDesignation (b : UInt8) : Bool :=
  "()$.&".toList.any (·.toNat == b.toNat)

def designationStep (d : Designating) (s : Designated) (rest : List UInt8) : Step Designated :=
  match escapeEnd d.longer 15 0 rest with
  | .unfinished => .unfinished
  | .endless => .refused 0
  | .found further =>
    match d.designation? (rest.take further) with
    | none => .refused further
    | some (place, r) => .taken further [] (s.designate place r)

def escapeStep (d : Designating) (s : Designated) (rest : List UInt8) : Step Designated :=
  match rest with
  | [] => .unfinished
  | b :: more =>
    if beginsDesignation b then d.designationStep s rest
    else if d.third && b == 0x4e then
      match more with
      | [] => .unfinished
      | c :: _ =>
        match s.third.upper c.toNat with
        | [] => .refused 2
        | chars => .taken 2 chars s
    else .taken 0 [Char.ofNat escapeByte.toNat] { s with verbatim := true }

/-- The step at a byte that is read in a set. -/
def charStep (s : Designated) (r : Repertoire) (b : UInt8) (rest : List UInt8) :
    Step Designated :=
  if r.isDouble then
    match rest with
    | [] => .unfinished
    | c :: _ =>
      match r.pair b.toNat c.toNat with
      | [] => .refused 1
      | chars => .taken 1 chars s
  else
    match r.single b.toNat with
    | [] => .refused 0
    | chars => .taken 0 chars s

/-- The rule of a way to write texts with designations. -/
def rule (d : Designating) : StepRule Designated
  | s, b, rest =>
    let plain := Char.ofNat b.toNat
    if s.verbatim then .taken 0 [plain] { s with verbatim := !endsEscape b }
    else if b = escapeByte then d.escapeStep s rest
    else if d.shifts && b == 0x0f then .taken 0 [] { s with shifted := false }
    else if d.shifts && b == 0x0e then .taken 0 [] { s with shifted := true }
    else if b = 0x0a then .taken 0 [plain] { s with shifted := false }
    else if b.toNat < 0x20 then .taken 0 [plain] s
    else if 0x80 ≤ b.toNat then .refused 0
    else charStep s (if s.shifted then s.second else s.first) b rest

end Designating

end Maquette.Charset
