import Maquette.Number.Notation
import Maquette.Text.Hex
import Maquette.Text.Symbol

/-!
# UTF-8

The bytes of a text, and the text that bytes write. Bytes need not be the
encoding of anything: `decodeParts` gives a character for every part that encodes
one and nothing for a longest beginning of a character that does not go on, and
the two readings differ in what they make of the latter.

A text with a half of a pair has no encoding, and `encodingFault?` tells where
the first one is.
-/

namespace Maquette.Text

/-- The bytes of a symbol. A half has none. -/
def Symbol.bytes : Symbol → List UInt8
  | char c => String.utf8EncodeChar c
  | half _ _ => []

def encode (s : List Char) : List UInt8 :=
  (symbols s).flatMap Symbol.bytes

/-- What the first byte of a character outside ASCII says: its part of the code
point, how many bytes follow, and in which range the first of them is. -/
structure LeadByte where
  bits : Nat
  following : Nat
  low : Nat
  high : Nat

/-- What a byte says as the first byte of a character outside ASCII. The ranges
leave out code points that have a shorter encoding, that are halves of pairs, or
that are too large. -/
def LeadByte.ofByte? (b : Nat) : Option LeadByte :=
  if 0xc2 ≤ b ∧ b ≤ 0xdf then some ⟨b - 0xc0, 1, 0x80, 0xbf⟩
  else if b = 0xe0 then some ⟨0, 2, 0xa0, 0xbf⟩
  else if b = 0xed then some ⟨0xd, 2, 0x80, 0x9f⟩
  else if 0xe1 ≤ b ∧ b ≤ 0xef then some ⟨b - 0xe0, 2, 0x80, 0xbf⟩
  else if b = 0xf0 then some ⟨0, 3, 0x90, 0xbf⟩
  else if 0xf1 ≤ b ∧ b ≤ 0xf3 then some ⟨b - 0xf0, 3, 0x80, 0xbf⟩
  else if b = 0xf4 then some ⟨4, 3, 0x80, 0x8f⟩
  else none

/-- The bytes that go on with a character, the first of them in a range. -/
def goingOn : (count low high : Nat) → List UInt8 → List UInt8
  | 0, _, _, _ => []
  | _, _, _, [] => []
  | count + 1, low, high, b :: rest =>
    if low ≤ b.toNat ∧ b.toNat ≤ high then b :: goingOn count 0x80 0xbf rest else []

/-- The characters that bytes write, with nothing for every part that writes
none. -/
def decodeParts : List UInt8 → List (Option Char)
  | [] => []
  | b :: rest =>
    if b.toNat < 0x80 then some (Char.ofNat b.toNat) :: decodeParts rest
    else
      match LeadByte.ofByte? b.toNat with
      | none => none :: decodeParts rest
      | some lead =>
        let tail := goingOn lead.following lead.low lead.high rest
        let value := tail.foldl (fun n b => n * 64 + (b.toNat - 0x80)) lead.bits
        (if tail.length = lead.following then (Symbol.char (Char.ofNat value)).parts else [none]) ++
          decodeParts (rest.drop tail.length)
termination_by bytes => bytes.length
decreasing_by all_goals (simp only [List.length_cons, List.length_drop]; omega)

/-- The text that bytes write, if every part of them is a character. -/
def decode? (bytes : List UInt8) : Option (List Char) :=
  (decodeParts bytes).mapM id

/-- What stands for a part of bytes that is no character. -/
def replacement : Char := '\ufffd'

/-- The text that bytes write, with a replacement for every part that is no
character. -/
def decode (bytes : List UInt8) : List Char :=
  (decodeParts bytes).map (·.getD replacement)

/-- A row of halves in a text, which has no encoding. -/
structure EncodingFault where
  half : Nat
  start : Nat
  length : Nat
deriving DecidableEq

def EncodingFault.message (f : EncodingFault) : String :=
  "'utf-8' codec can't encode character" ++
    (if f.length = 1 then
      " '\\u" ++ String.ofList (hex 4 f.half) ++ "' in position " ++ integerText f.start
    else
      "s in position " ++ integerText f.start ++ "-" ++ integerText (f.start + f.length - 1)) ++
    ": surrogates not allowed"

/-- The first half in a text that is lost, with the halves behind it. -/
def lostHalves? (isLost : Nat → Bool) (s : List Char) : Option EncodingFault :=
  let row := symbols s
  let start := (row.takeWhile fun symbol => !symbol.half?.any isLost).length
  let halves :=
    ((row.drop start).takeWhile fun symbol => symbol.half?.isSome).filterMap Symbol.half?
  halves.head?.map fun half => ⟨half, start, halves.length⟩

def encodingFault? (s : List Char) : Option EncodingFault :=
  lostHalves? (fun _ => true) s

/-- A half that stands for a byte outside ASCII in the name of a file. -/
def isByteHalf (half : Nat) : Bool :=
  0xdc80 ≤ half && half ≤ 0xdcff

/-- Names of files take more than texts do: a half may stand for a byte. -/
def fileFault? (s : List Char) : Option EncodingFault :=
  lostHalves? (!isByteHalf ·) s

/-- How many bytes a symbol has in the name of a file. -/
def Symbol.fileSize : Symbol → Nat
  | char c => c.utf8Size
  | half _ _ => 1

def fileSize (s : List Char) : Nat :=
  (symbols s).foldr (fun symbol rest => symbol.fileSize + rest) 0

@[simp] theorem encode_nil : encode [] = [] := rfl

@[simp] theorem decode_nil : decode [] = [] := by simp [decode, decodeParts]

end Maquette.Text
