import Maquette.Charset.Basic

/-!
# Percent-encoding

Addresses and forms write a byte as a percent sign and two hexadecimal digits. A
percent sign without two digits after it stands for itself. In a form, a plus
sign is a space.
-/

namespace Maquette.Text

/-- The bytes that some bytes write in percent-encoding. -/
def percentBytes : List UInt8 → List UInt8
  | [] => []
  | [b] => [b]
  | [b, c] => [b, c]
  | b :: high :: low :: rest =>
    match b, hexValue? (Char.ofNat high.toNat), hexValue? (Char.ofNat low.toNat) with
    | 0x25, some h, some l => UInt8.ofNat (h * 16 + l) :: percentBytes rest
    | _, _, _ => b :: percentBytes (high :: low :: rest)

/-- The text in which percent-encoded characters are decoded. Characters outside
ASCII stand between the parts that are decoded. -/
def percentDecode (charset : Charset) (s : List Char) : Except Charset.Fault (List Char) :=
  if '%' ∈ s then rows s.length s else .ok s
where
  /-- A row of ASCII decoded, then the characters up to the next one. -/
  rows : (fuel : Nat) → List Char → Except Charset.Fault (List Char)
    | 0, s => .ok s
    | _, [] => .ok []
    | fuel + 1, s => do
      let ascii := s.takeWhile (·.toNat < 0x80)
      let rest := s.drop ascii.length
      let others := rest.takeWhile (0x80 ≤ ·.toNat)
      let decoded ← charset.decodeReplacing (percentBytes (encode ascii))
      return decoded ++ others ++ (← rows fuel (rest.drop others.length))

/-- A name or value of a form. -/
def formText (charset : Charset) (s : List Char) : Except Charset.Fault (List Char) :=
  percentDecode charset (s.map fun c => if c = '+' then ' ' else c)

/-- The character stands for itself in an address. -/
def isPlainInAddress (c : Char) : Bool :=
  c.isAlphanum || "_.-~/#%[]=:;$&()+,!?*@'".toList.contains c

def percentChar (c : Char) : List Char :=
  if isPlainInAddress c then [c]
  else (encode [c]).flatMap fun b => '%' :: (hex 2 b.toNat).map Char.toUpper

end Maquette.Text
