import Maquette.Number.Binary64

/-!
# Decimal numbers

A decimal number is a coefficient scaled by a power of ten, with a sign of its
own so that a negative zero can be written. `Decimal.toBinary64` reads it as
the nearest double. Exponents come out of texts and may be astronomically
large, so they are first limited to a range outside of which the answer is
certainly zero or infinite; within it the reading is one exact rounding.
-/

namespace Maquette

/-- The most digits of an integer that is read from a text from outside. -/
def Number.digitLimit : Nat := 4300

/-- The number `± coefficient * 10 ^ exponent`. -/
structure Decimal where
  negative : Bool
  coefficient : Nat
  exponent : Int
deriving DecidableEq

namespace Decimal

/-- From this exponent on, every number but zero is past the largest double. -/
def highestExponent : Int := 400

/-- Below this exponent, a number with the given coefficient is nearer to zero
than to the smallest double. -/
def lowestExponent (coefficient : Nat) : Int :=
  -((coefficient.log2 + 400 : Nat) : Int)

/-- The exponent, limited to the range in which it matters. -/
def limitedExponent (d : Decimal) : Int :=
  max (lowestExponent d.coefficient) (min d.exponent highestExponent)

def nearest (negative : Bool) (coefficient : Nat) (exponent : Int) : Binary64 :=
  Binary64.ofRatio negative (coefficient * Nat.pow 10 exponent.toNat)
    (Nat.pow 10 (-exponent).toNat)

def toBinary64 (d : Decimal) : Binary64 :=
  nearest d.negative d.coefficient d.limitedExponent

end Decimal

end Maquette
