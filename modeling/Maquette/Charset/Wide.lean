import Maquette.Text.Symbol

/-!
# UTF-16 and UTF-32

Characters as units of two or four bytes. The order of the bytes is fixed, or a
mark at the beginning tells it; without a mark the least byte comes first.

The parts of a reading are characters, or nothing for a part that means none: half
of a pair, a number that is no code point, or bytes that make no whole unit.
-/

namespace Maquette.Charset

/-- In which order the bytes of a unit come. -/
inductive ByteOrder
  | little
  | big
  /-- A mark tells it. -/
  | marked
deriving DecidableEq

/-- The number that bytes write. -/
def unitValue (bigEndian : Bool) (bytes : List UInt8) : Nat :=
  (if bigEndian then bytes else bytes.reverse).foldl (fun n b => n * 0x100 + b.toNat) 0

/-- The UTF-16 units of bytes, with nothing for half a unit at the end. -/
def units16 (bigEndian : Bool) : List UInt8 → List (Option Nat)
  | [] => []
  | [_] => [none]
  | a :: b :: rest => some (unitValue bigEndian [a, b]) :: units16 bigEndian rest

/-- The UTF-32 units of bytes, with nothing for a part of a unit at the end. -/
def units32 (bigEndian : Bool) : List UInt8 → List (Option Nat)
  | [] => []
  | a :: b :: c :: d :: rest => some (unitValue bigEndian [a, b, c, d]) :: units32 bigEndian rest
  | _ => [none]

/-- The parts of a number by itself, which is a code point or means nothing. -/
def codePointParts (value : Nat) : List (Option Char) :=
  if Text.isHalf value || 0x110000 ≤ value then [none]
  else (Text.Symbol.char (Char.ofNat value)).parts

/-- The parts of UTF-16 units. The first half of a pair at the end waits for
more, together with half a unit behind it. -/
def unitParts : List (Option Nat) → List (Option Char)
  | [] => []
  | none :: rest => none :: unitParts rest
  | [some unit] => codePointParts unit
  | [some unit, none] => if Text.isHighHalf unit then [none] else codePointParts unit ++ [none]
  | some unit :: some next :: rest =>
    if Text.isHighHalf unit && Text.isLowHalf next then
      codePointParts (Text.pairValue unit next) ++ unitParts rest
    else codePointParts unit ++ unitParts (some next :: rest)
  | some unit :: none :: rest => codePointParts unit ++ unitParts (none :: rest)

def byteOrderMark : Nat := 0xfeff

/-- Whether the most significant byte of a unit comes first, and the bytes behind
the mark that tells it. -/
def ByteOrder.resolve (order : ByteOrder) (width : Nat) (bytes : List UInt8) :
    Bool × List UInt8 :=
  match order with
  | .little => (false, bytes)
  | .big => (true, bytes)
  | .marked =>
    let first := bytes.take width
    if first.length < width then (false, bytes)
    else if unitValue false first = byteOrderMark then (false, bytes.drop width)
    else if unitValue true first = byteOrderMark then (true, bytes.drop width)
    else (false, bytes)

def parts16 (order : ByteOrder) (bytes : List UInt8) : List (Option Char) :=
  let (bigEndian, rest) := order.resolve 2 bytes
  unitParts (units16 bigEndian rest)

def parts32 (order : ByteOrder) (bytes : List UInt8) : List (Option Char) :=
  let (bigEndian, rest) := order.resolve 4 bytes
  (units32 bigEndian rest).flatMap fun unit => unit.elim [none] codePointParts

/-- The bytes of a stream that make whole units, as far as they are not still waiting
for the second half of a pair. -/
def wholeUnits (width : Nat) (bigEndian : Bool) (bytes : List UInt8) : List UInt8 :=
  let whole := bytes.take (bytes.length / width * width)
  let last := whole.drop (whole.length - width)
  if width = 2 ∧ Text.isHighHalf (unitValue bigEndian last) then
    whole.take (whole.length - width)
  else whole

/-- The parts of a stream of bytes in UTF-16 or UTF-32. What waits for more does not
count, and a mark that tells the order has to be there. -/
def streamParts (width : Nat) (parts : ByteOrder → List UInt8 → List (Option Char))
    (order : ByteOrder) (bytes : List UInt8) : List (Option Char) :=
  let (bigEndian, rest) := order.resolve width bytes
  if order = .marked ∧ rest.length = bytes.length then
    if bytes.length < width then [] else [none]
  else parts (if bigEndian then .big else .little) (wholeUnits width bigEndian rest)

end Maquette.Charset
