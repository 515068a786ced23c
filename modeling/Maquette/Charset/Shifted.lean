import Maquette.Charset.Wide
import Maquette.Text.Base64

/-!
# UTF-7

ASCII stands for itself, and between a plus sign and the next byte outside the
alphabet of base 64 stand UTF-16 units in it. A minus sign at the end of such a
section belongs to it, and two of the signs by themselves are a plus sign.

A section that ends inside a unit is refused together with the byte that ends it.
Halves of pairs that do not meet are kept.
-/

namespace Maquette.Charset

/-- The characters of UTF-16 units, and a first half of a pair that is left over at
their end. -/
def joinUnits : List Nat → List Char × Option Nat
  | [] => ([], none)
  | [unit] =>
    if Text.isHighHalf unit then ([], some unit) else ((Text.Symbol.ofUnit unit).code, none)
  | unit :: next :: rest =>
    if Text.isHighHalf unit then
      if Text.isLowHalf next then
        let (chars, pending) := joinUnits rest
        ((Text.Symbol.ofUnit (Text.pairValue unit next)).code ++ chars, pending)
      else
        let (chars, pending) := joinUnits (next :: rest)
        ((Text.Symbol.ofUnit unit).code ++ chars, pending)
    else
      let (chars, pending) := joinUnits (next :: rest)
      ((Text.Symbol.ofUnit unit).code ++ chars, pending)

/-- The units of a section, and whether no more than a filling of zeros is left over
behind them. -/
def sectionUnits (run : List UInt8) : List Nat × Bool :=
  let digits := run.filterMap Text.sixBits?
  let value := digits.foldl (fun n d => n * 0x40 + d) 0
  let width := digits.length * 6
  let count := width / 16
  let left := width % 16
  let units := (List.range count).map fun i =>
    value / Nat.pow 2 (left + 16 * (count - 1 - i)) % 0x10000
  (units, left < 6 && value % Nat.pow 2 left == 0)

/-- The parts of bytes in UTF-7. A section at the end of a stream still waits for
more. -/
def shiftedParts (stream : Bool) : (fuel : Nat) → List UInt8 → List (Option Char)
  | 0, _ => []
  | _, [] => []
  | fuel + 1, b :: rest =>
    if 0x80 ≤ b.toNat then none :: shiftedParts stream fuel rest
    else if b ≠ 0x2b then some (Char.ofNat b.toNat) :: shiftedParts stream fuel rest
    else
      let run := rest.takeWhile fun c => (Text.sixBits? c).isSome
      let (units, isClean) := sectionUnits run
      let (chars, pending) := joinUnits units
      match run, rest.drop run.length with
      | [], 0x2d :: more => some '+' :: shiftedParts stream fuel more
      | [], _ :: more => none :: shiftedParts stream fuel more
      | _, [] =>
        if stream then []
        else chars.map some ++ (if isClean && pending.isNone then [] else [none])
      | _, c :: more =>
        chars.map some ++
          if isClean then
            (if c.toNat < 0x80 then pending.elim [] fun unit => (Text.Symbol.ofUnit unit).parts
            else []) ++
              shiftedParts stream fuel (if c = 0x2d then more else c :: more)
          else none :: shiftedParts stream fuel more

/-- The parts of bytes in UTF-7, or of a stream of them. -/
def parts7 (stream : Bool) (bytes : List UInt8) : List (Option Char) :=
  shiftedParts stream bytes.length bytes

end Maquette.Charset
