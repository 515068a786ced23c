import Maquette.Charset.Grid.KsX1001
import Maquette.Charset.Grid.UnifiedHangul
import Maquette.Charset.Step

/-!
# Korean character sets

KS X 1001 has a cell for each of the more frequent syllables, and the extended
Unix code spells the others out in eight bytes. The unified Hangul code gives every
syllable a pair of bytes. Johab does so too, and its pairs consist of three groups
of five bits: the initial, the vowel and the final of the syllable.
-/

namespace Maquette.Charset

/-- The syllable of an initial, a vowel and a final, where no final is the zeroth. -/
def hangul (initial vowel final : Nat) : Char :=
  Char.ofNat (0xac00 + initial * 588 + vowel * 28 + final)

def ksX1001Text (b c : Nat) : List Char :=
  if 0x80 ≤ b ∧ 0x80 ≤ c then Grid.ksX1001.text (b - 0x80) (c - 0x80) else []

/-- The characters of a pair of bytes in the unified Hangul code. -/
def unifiedHangulText (b c : Nat) : List Char :=
  firstText [ksX1001Text b c, Grid.unifiedHangul.text b c]

def letterRow : UInt8 := 0xa4

/-- The column of the letter that stands for none. -/
def noLetter : UInt8 := 0xd4

/-- The letters in the order of their columns that can be initials, as numbers of
letters from zero. -/
def initials : List Nat :=
  [0, 1, 3, 6, 7, 8, 16, 17, 18, 20, 21, 22, 23, 24, 25, 26, 27, 28, 29]

/-- The letters in the order of their columns that can be finals. -/
def finals : List Nat :=
  [0, 1, 2, 3, 4, 5, 6, 8, 9, 10, 11, 12, 13, 14, 15, 16, 17, 19, 20, 21, 22, 23, 25, 26, 27,
    28, 29]

def spelledVowel? (column : Nat) : Option Nat :=
  if 0xbf ≤ column ∧ column ≤ 0xd3 then some (column - 0xbf) else none

def spelledInitial? (column : Nat) : Option Nat :=
  if 0xa1 ≤ column then initials.idxOf? (column - 0xa1) else none

def spelledFinal? (column : Nat) : Option Nat :=
  if column = noLetter.toNat then some 0
  else if 0xa1 ≤ column then (finals.idxOf? (column - 0xa1)).map (· + 1)
  else none

/-- The syllable that three columns spell. -/
def spelled? (initial vowel final : Nat) : Option Char := do
  return hangul (← spelledInitial? initial) (← spelledVowel? vowel) (← spelledFinal? final)

/-- The step at a syllable that is spelled out behind the letter for none. -/
def spelledStep : List UInt8 → Step Unit
  | row₁ :: initial :: row₂ :: vowel :: row₃ :: final :: _ =>
    if row₁ = letterRow ∧ row₂ = letterRow ∧ row₃ = letterRow then
      match spelled? initial.toNat vowel.toNat final.toNat with
      | some c => .taken 7 [c] ()
      | none => .refused 0
    else .refused 0
  | _ => .unfinished

/-- The rule of the extended Unix code for KS X 1001. -/
def eucKrRule : StepRule Unit
  | (), b, rest =>
    if b.toNat < 0x80 then .byte b
    else
      match rest with
      | [] => .unfinished
      | c :: more =>
        if b = letterRow ∧ c = noLetter then spelledStep more
        else .pair (ksX1001Text b.toNat c.toNat)

/-- A part of a syllable in Johab. -/
inductive JohabPart
  /-- The part is left out. -/
  | absent
  /-- The part is this one, and by itself it is a letter of this number. -/
  | letter (index number : Nat)

/-- The parts that five bits can mean, in their order. -/
abbrev JohabParts := List (Option JohabPart)

/-- Letters that follow each other as five bits, from a first index on. -/
def johabLetters (first : Nat) (numbers : List Nat) : JohabParts :=
  (numbers.zipIdx first).map fun (number, index) => some (.letter index number)

def johabInitials : JohabParts :=
  [none, some .absent] ++ johabLetters 0 initials

def johabVowels : JohabParts :=
  [none, none, some .absent] ++ johabLetters 0 [30, 31, 32, 33, 34] ++
    [none, none] ++ johabLetters 5 [35, 36, 37, 38, 39, 40] ++
    [none, none] ++ johabLetters 11 [41, 42, 43, 44, 45, 46] ++
    [none, none] ++ johabLetters 17 [47, 48, 49, 50]

def johabFinals : JohabParts :=
  [none, some .absent] ++ johabLetters 1 (finals.take 16) ++ [none] ++
    johabLetters 17 (finals.drop 16)

def johabLetter (number : Nat) : Char :=
  Char.ofNat (0x3131 + number)

/-- The character of three parts: a syllable, a letter, or a wide space. -/
def johabChar? : (initial vowel final : JohabPart) → Option Char
  | .absent, .absent, .absent => some '\u3000'
  | .absent, .absent, .letter _ number => some (johabLetter number)
  | .absent, .letter _ number, .absent => some (johabLetter number)
  | .letter _ number, .absent, .absent => some (johabLetter number)
  | .letter initial _, .letter vowel _, .absent => some (hangul initial vowel 0)
  | .letter initial _, .letter vowel _, .letter final _ => some (hangul initial vowel final)
  | _, _, _ => none

def JohabParts.part? (parts : JohabParts) (bits : Nat) : Option JohabPart :=
  (parts[bits]?).join

/-- The syllable or letter of a pair of bytes in Johab. -/
def johabHangul? (b c : Nat) : Option Char := do
  johabChar? (← johabInitials.part? (b / 4 % 32)) (← johabVowels.part? (b % 4 * 8 + c / 32))
    (← johabFinals.part? (c % 32))

/-- The cell of KS X 1001 that a pair of bytes in Johab leads to. -/
def johabCell? (b c : Nat) : Option (Nat × Nat) :=
  if b = 0xd8 ∨ b = 0xdf ∨ 0xf9 < b ∨ c < 0x31 ∨ (0x80 ≤ c ∧ c < 0x91) ∨ c % 0x80 = 0x7f ∨
      (b = 0xda ∧ 0xa1 ≤ c ∧ c ≤ 0xd3) then
    none
  else
    let row := if b < 0xe0 then 2 * (b - 0xd9) else 2 * b - 0x197
    let cell := if c < 0x91 then c - 0x31 else c - 0x43
    some (row + cell / 94 + 0x21, cell % 94 + 0x21)

/-- The characters of a pair of bytes in Johab. -/
def johabText (b c : Nat) : List Char :=
  if b < 0xd8 then (johabHangul? b c).toList
  else
    match johabCell? b c with
    | none => []
    | some (row, column) => Grid.ksX1001.text row column

end Maquette.Charset
