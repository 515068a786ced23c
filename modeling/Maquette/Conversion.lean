import Maquette.Color
import Maquette.Style

/-!
# Conversions of raw values

The conversions of the other modules, applied to values whose type is not known
yet. Each argument has to be a number where a number is wanted; a default or a
floor is only looked at when it is needed.
-/

namespace Maquette.Conversion

/-- The number that a value means, or a default, raised to a floor if there is
one. -/
def numberOr (value default : Json) (floor : Option Json) : Except NumberError Binary64 := do
  let number ←
    match ← value.number? with
    | some number => pure number
    | none => default.toBinary64
  match floor with
  | none => return number
  | some floor => return number.max (← floor.toBinary64)

/-- A number in code without a needless fraction. -/
def literal (value : Json) : Except NumberError String :=
  return (← value.toBinary64).literal

def fractionLiteral (value : Json) : Except NumberError String :=
  return (← value.toBinary64).fractionLiteral

/-- An amount, nothing at all counting as zero. -/
def amount (value : Json) : Except NumberError Binary64 :=
  if value.isTruthy then value.toBinary64 else .ok 0

/-- The code of insets, uniform if an amount for all sides is given. -/
def insets (all horizontal vertical : Json) : Except NumberError String :=
  if all.isNull then
    return (Insets.symmetric (← amount horizontal) (← amount vertical)).code
  else
    return (Insets.all (← all.toBinary64)).code

def corner (radius : Json) : Except NumberError String :=
  return cornerCode (← radius.toBinary64)

def widthFraction (fraction : Json) : Except NumberError String :=
  return FontSize.widthCode (← fraction.toBinary64)

/-- The literal of the displayed text of a value, empty when there is none. -/
def displayedText (value : Json) : String :=
  if value.isNull then "" else value.display

end Maquette.Conversion
