import Maquette.Number.Decimal

/-!
# The shortest decimal of a double

`shortest m` is the decimal with the fewest digits that reads back as the finite
double `m`; among those of equal length it is the nearest one to `m`, and of two
equally near ones the one with an even last digit.

The number is compared with the decimal grids of one digit, two digits, and so
on. If any point of a grid reads back, one of the two neighbours of the number
on that grid does, so only these are tried. A double has a finite decimal
expansion, and that expansion reads back, so the search cannot come out empty;
the expansion is what it falls back to, although seventeen digits always do.
-/

namespace Maquette

namespace Decimal

/-- The exponent of the first decimal digit of a nonzero number of units: the
`e` with `10 ^ e ≤ value < 10 ^ (e + 1)`. The smallest double is above
`10 ^ -324`, so the value times `10 ^ 324` has at least one digit before the
point. -/
def leadingExponent (units : Nat) : Int :=
  ((Nat.toDigits 10 (units * Nat.pow 10 324 / Binary64.unitsPerOne)).length : Int) - 325

/-- The value of `units` counted in steps of `10 ^ step`, as a quotient. -/
def gridQuotient (units : Nat) (step : Int) : Nat × Nat :=
  (units * Nat.pow 10 (-step).toNat, Binary64.unitsPerOne * Nat.pow 10 step.toNat)

/-- A grid point, with a carry past the first digit written as a power of ten. -/
def ofGridPoint (digits point : Nat) (step : Int) : Decimal :=
  if point = Nat.pow 10 digits then ⟨false, Nat.pow 10 (digits - 1), step + 1⟩
  else ⟨false, point, step⟩

/-- The two grid points around the number on the grid of so many digits, the
nearer one first. -/
def neighbours (units digits : Nat) : List Decimal :=
  let step := leadingExponent units - digits + 1
  let (num, den) := gridQuotient units step
  let below := num / den
  let lower := ofGridPoint digits below step
  let upper := ofGridPoint digits (below + 1) step
  let r := num % den
  if 2 * r < den ∨ (2 * r = den ∧ below % 2 = 0) then [lower, upper] else [upper, lower]

def readsBackAs (units : Nat) (d : Decimal) : Bool :=
  d.toBinary64.hasUnits units

def expansion (units : Nat) : Decimal :=
  ⟨false, units * Nat.pow 5 1074, -1074⟩

def shortest (m : Magnitude) : Decimal :=
  if m.units = 0 then ⟨false, 0, 0⟩
  else
    (((List.range' 1 17).flatMap (neighbours m.units)).find? (readsBackAs m.units)).getD
      (expansion m.units)

end Decimal

end Maquette
