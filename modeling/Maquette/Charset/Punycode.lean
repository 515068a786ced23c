import Maquette.Number.Notation
import Maquette.Text.Hex
import Maquette.Text.Symbol

/-!
# Punycode

A text as its ASCII characters and, behind the last hyphen, instructions that say
where the other characters go: in the order of their code points, each as the
distance from the one before. The distances are numbers of variable length with 36
digits, whose bounds adapt to the distances read so far.
-/

namespace Maquette.Charset.Punycode

/-- The value of a digit, in either case. -/
def digitValue? (c : Char) : Option Nat :=
  if 'A' ≤ c ∧ c ≤ 'Z' then some (c.toNat - 'A'.toNat)
  else if 'a' ≤ c ∧ c ≤ 'z' then some (c.toNat - 'a'.toNat)
  else if '0' ≤ c ∧ c ≤ '9' then some (c.toNat - '0'.toNat + 26)
  else none

def digit (value : Nat) : Char :=
  if value < 26 then Char.ofNat ('a'.toNat + value) else Char.ofNat ('0'.toNat + (value - 26))

/-- The bound of a digit at a place: a smaller digit is the last one. -/
def bound (place bias : Nat) : Nat :=
  min 26 (max 1 (36 * (place + 1) - bias))

/-- How often a distance has to be divided until it is small, and what it is then. -/
def shrink (fuel distance : Nat) : Nat × Nat :=
  match fuel with
  | 0 => (0, distance)
  | fuel + 1 =>
    if 455 < distance then
      let (divisions, small) := shrink fuel (distance / 35)
      (divisions + 1, small)
    else (0, distance)

/-- The bias after a distance, given how many characters there are then. -/
def adapt (distance count : Nat) (isFirst : Bool) : Nat :=
  let distance := if isFirst then distance / 700 else distance / 2
  let distance := distance + distance / count
  let (divisions, small) := shrink distance distance
  divisions * 36 + 36 * small / (small + 38)

/-- Why a text cannot be read. -/
inductive Fault
  /-- The last number has no last digit. -/
  | incomplete
  /-- A character is no digit. -/
  | notDigit (c : Char)
  /-- A code point is too large. -/
  | tooLarge (codePoint : Nat)
  /-- A byte is outside ASCII. -/
  | notAscii (byte position : Nat)
deriving DecidableEq

/-- The message of a text that cannot be read. -/
def Fault.message : Fault → String
  | incomplete => "incomplete punicode string"
  | notDigit c => "Invalid extended code point '" ++ c.toString ++ "'"
  | tooLarge codePoint => "Invalid character U+" ++ String.ofList (Text.hex 0 codePoint)
  | notAscii byte position =>
    "'ascii' codec can't decode byte 0x" ++ String.ofList (Text.hex 2 byte) ++
      " in position " ++ integerText position ++ ": ordinal not in range(128)"

/-- A distance, and the characters behind it. -/
def distance (bias : Nat) : (place weight value : Nat) → List Char → Except Fault (Nat × List Char)
  | _, _, _, [] => .error .incomplete
  | place, weight, value, c :: rest =>
    match digitValue? c with
    | none => .error (.notDigit c)
    | some d =>
      let value := value + d * weight
      let bound := bound place bias
      if d < bound then .ok (value, rest)
      else distance bias (place + 1) (weight * (36 - bound)) value rest

/-- What the characters of a text are put into. -/
structure Insertion where
  chars : List Nat
  codePoint : Nat := 0x80
  /-- Where the last character went, and zero before the first one. -/
  next : Nat := 0
  bias : Nat := 72
  isFirst : Bool := true

def lastCodePoint : Nat := 0x10ffff

/-- A character is put at a distance from the last one. A code point that is too
large is a question mark where faults do not count. -/
def Insertion.insert (s : Insertion) (strict : Bool) (distance : Nat) : Except Fault Insertion :=
  let count := s.chars.length + 1
  let position := s.next + distance
  let codePoint := s.codePoint + position / count
  if lastCodePoint < codePoint ∧ strict then .error (.tooLarge codePoint)
  else
    let codePoint := if lastCodePoint < codePoint then '?'.toNat else codePoint
    let place := position % count
    .ok {
      chars := s.chars.insertIdx place codePoint
      codePoint := codePoint
      next := place + 1
      bias := adapt distance count s.isFirst
      isFirst := false }

/-- The characters that instructions put into a text. Where faults do not count, the
first one ends the reading. -/
def insertAll (strict : Bool) : (fuel : Nat) → Insertion → List Char → Except Fault (List Nat)
  | 0, s, _ => .ok s.chars
  | _, s, [] => .ok s.chars
  | fuel + 1, s, rest =>
    match distance s.bias 0 1 0 rest with
    | .error fault => if strict then .error fault else .ok s.chars
    | .ok (d, rest) =>
      match s.insert strict d with
      | .error fault => .error fault
      | .ok s => insertAll strict fuel s rest

/-- The bytes before the last hyphen, and those behind it. -/
def split (bytes : List UInt8) : List UInt8 × List UInt8 :=
  let behind := (bytes.reverse.takeWhile (· ≠ 0x2d)).reverse
  (bytes.take (bytes.length - behind.length - 1), behind)

def notAscii? (bytes : List UInt8) : Option Fault :=
  (bytes.zipIdx.find? (0x80 ≤ ·.1.toNat)).map fun (b, i) => .notAscii b.toNat i

/-- What stands for a byte outside ASCII. -/
def replacement : Nat := 0xfffd

/-- The text that bytes write. Where faults do not count, bytes outside ASCII are
replaced before the hyphen, and are a fault nevertheless behind it. -/
def decode (strict : Bool) (bytes : List UInt8) : Except Fault (List Text.Symbol) :=
  let (base, behind) := split bytes
  match (if strict then notAscii? base else none) <|> notAscii? behind with
  | some fault => .error fault
  | none =>
    let chars := base.map fun b => if b.toNat < 0x80 then b.toNat else replacement
    let digits := behind.map fun b => (Char.ofNat b.toNat).toUpper
    (insertAll strict behind.length { chars } digits).map (·.map Text.Symbol.ofUnit)

def distanceDigits (bias : Nat) : (fuel place value : Nat) → List Char
  | 0, _, _ => []
  | fuel + 1, place, value =>
    let bound := bound place bias
    if value < bound then [digit value]
    else
      digit (bound + (value - bound) % (36 - bound)) ::
        distanceDigits bias fuel (place + 1) ((value - bound) / (36 - bound))

/-- What instructions are written from: how many characters they have come to, the
distance from the last one, and the bias. -/
structure Extraction where
  written : Nat
  distance : Nat := 0
  bias : Nat := 72
  isFirst : Bool := true

def instructions (codePoint : Nat) : Extraction → List Nat → Extraction × List Char
  | s, [] => (s, [])
  | s, c :: rest =>
    if c < codePoint then instructions codePoint { s with distance := s.distance + 1 } rest
    else if c = codePoint then
      let digits := distanceDigits s.bias (s.distance + 1) 0 s.distance
      let next : Extraction := {
        written := s.written + 1
        distance := 0
        bias := adapt s.distance (s.written + 1) s.isFirst
        isFirst := false }
      let (last, more) := instructions codePoint next rest
      (last, digits ++ more)
    else instructions codePoint s rest

/-- The instructions for the characters of some code points in a text, the next of
which is at least `from`. -/
def allInstructions (text : List Nat) : (start : Nat) → Extraction → List Nat → List Char
  | _, _, [] => []
  | start, s, codePoint :: rest =>
    let s := { s with distance := s.distance + (codePoint - start) * (s.written + 1) }
    let (s, digits) := instructions codePoint s text
    digits ++ allInstructions text (codePoint + 1) { s with distance := s.distance + 1 } rest

def encode (text : List Nat) : List Char :=
  let base := text.filter (· < 0x80)
  let others := ((text.filter (0x80 ≤ ·)).mergeSort (· ≤ ·)).eraseReps
  base.map Char.ofNat ++ (if base.isEmpty then [] else ['-']) ++
    allInstructions text 0x80 { written := base.length } others

end Maquette.Charset.Punycode
