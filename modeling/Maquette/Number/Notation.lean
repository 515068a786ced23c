import Maquette.Number.Shortest

/-!
# Written numbers

How a double is written is a handful of decisions, gathered in one `Notation`
value: from which exponents a number is written with a plain decimal point, and
how the exponent of the others looks. `plain` is the notation of every number
this library writes, in displayed texts, in data files and in code.
-/

namespace Maquette

/-- The decisions of a number notation. Numbers whose first digit has an
exponent in the half-open range are written positionally, the others with one
digit before the point and an exponent of at least so many digits. -/
structure Notation where
  positionalFrom : Int
  positionalBelow : Int
  exponentDigits : Nat
  infinity : String
  notANumber : String

namespace Notation

/-- Ten thousandths up to sixteen digits before the point are written
positionally, and an exponent has a sign and two digits or more. -/
def plain : Notation where
  positionalFrom := -4
  positionalBelow := 16
  exponentDigits := 2
  infinity := "inf"
  notANumber := "nan"

end Notation

def decimalDigits (n : Nat) : List Char :=
  Nat.toDigits 10 n

def integerText (n : Int) : String :=
  String.ofList ((if n < 0 then ['-'] else []) ++ decimalDigits n.natAbs)

namespace Decimal

/-- The exponent with its sign, filled up with zeros in front. -/
def exponentText (width : Nat) (e : Int) : List Char :=
  let digits := decimalDigits e.natAbs
  (if e < 0 then '-' else '+') :: (List.replicate (width - digits.length) '0' ++ digits)

/-- Digits with a point after the first `whole` of them, zeros filled in on
either side so that the point has a digit before and after it. -/
def positional (digits : List Char) (whole : Int) : List Char :=
  if whole ≤ 0 then
    '0' :: '.' :: (List.replicate (-whole).toNat '0' ++ digits)
  else
    let n := whole.toNat
    if digits.length ≤ n then
      digits ++ List.replicate (n - digits.length) '0' ++ ['.', '0']
    else
      digits.take n ++ '.' :: digits.drop n

/-- Digits with a point after the first one, if more follow. -/
def oneBeforePoint : List Char → List Char
  | [] => []
  | [d] => [d]
  | d :: rest => d :: '.' :: rest

/-- The written form of an unsigned decimal without trailing zeros. -/
def written (format : Notation) (d : Decimal) : List Char :=
  let digits := decimalDigits d.coefficient
  let leading := d.exponent + digits.length - 1
  if d.coefficient = 0 then ['0', '.', '0']
  else if format.positionalFrom ≤ leading ∧ leading < format.positionalBelow then
    positional digits (leading + 1)
  else
    oneBeforePoint digits ++ 'e' :: exponentText format.exponentDigits leading

end Decimal

namespace Binary64

def signText (negative : Bool) : List Char :=
  if negative then ['-'] else []

/-- The shortest text that reads back as the double. -/
def text : Binary64 → String
  | .finite s m =>
    String.ofList (signText s ++ (Decimal.shortest m).written Notation.plain)
  | .infinite s => String.ofList (signText s) ++ Notation.plain.infinity
  | .nan => Notation.plain.notANumber

/-- A number in code: an integral value has no fraction. -/
def literal (x : Binary64) : String :=
  match x.integer? with
  | some n => integerText n
  | none => x.text

/-- A number in code that always has a fraction or an exponent. -/
def fractionLiteral (x : Binary64) : String :=
  match x.integer? with
  | some n => integerText n ++ ".0"
  | none => x.text

end Binary64

end Maquette
