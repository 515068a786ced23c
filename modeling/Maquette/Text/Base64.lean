/-!
# Base64

Bytes that were written in an alphabet of 64 characters, six bits each. Whatever
is not in the alphabet does not count, and a full padding ends the reading. The
characters have to come out even: a beginning of a byte that is neither finished
nor padded makes the whole unreadable.
-/

namespace Maquette.Text

def sixBits? (b : UInt8) : Option Nat :=
  let n := b.toNat
  if 0x41 ≤ n ∧ n ≤ 0x5a then some (n - 0x41)
  else if 0x61 ≤ n ∧ n ≤ 0x7a then some (n - 0x61 + 26)
  else if 0x30 ≤ n ∧ n ≤ 0x39 then some (n - 0x30 + 52)
  else if n = 0x2b then some 62
  else if n = 0x2f then some 63
  else none

/-- The bytes that the rest of a text writes, when `place` characters of four were
read, which left over `bits`, and `pads` paddings came after them. -/
def decodeBase64From (place bits pads : Nat) : List UInt8 → Option (List UInt8)
  | [] => if place = 0 then some [] else none
  | b :: rest =>
    if b = 0x3d then
      if place < 2 then decodeBase64From place bits pads rest
      else if 4 ≤ place + pads + 1 then some []
      else decodeBase64From place bits (pads + 1) rest
    else
      match sixBits? b, place with
      | none, _ => decodeBase64From place bits pads rest
      | some six, 0 => decodeBase64From 1 six 0 rest
      | some six, 1 =>
        (decodeBase64From 2 (six % 16) 0 rest).map (UInt8.ofNat (bits * 4 + six / 16) :: ·)
      | some six, 2 =>
        (decodeBase64From 3 (six % 4) 0 rest).map (UInt8.ofNat (bits * 16 + six / 4) :: ·)
      | some six, _ => (decodeBase64From 0 0 0 rest).map (UInt8.ofNat (bits * 64 + six) :: ·)

def decodeBase64? (s : List UInt8) : Option (List UInt8) :=
  decodeBase64From 0 0 0 s

end Maquette.Text
