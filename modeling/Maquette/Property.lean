import Maquette.Json.Display
import Maquette.Number.Error
import Maquette.Number.Reading
import Maquette.Text.Lower

/-!
# Loosely typed properties

A builder saves a property as whatever its form field held: a number, the text
of a number with a unit, a flag as a word. This module says what such a value
means where a number, a flag or a weight is wanted.

Values that mean nothing give `none`, so that the caller's default applies. The
single failure is an integer that no double can hold: it is reported and not
replaced by a default.
-/

namespace Maquette

namespace Binary64

/-- The double nearest to an integer, unless the integer is too large for one. -/
def ofIntChecked (n : Int) : Except NumberError Binary64 :=
  if (ofInt n).isFinite then .ok (ofInt n) else .error .integerTooLarge

end Binary64

namespace Json

/-- The finite number that a loosely typed value means, if any: numbers mean
themselves and texts the number they begin with. -/
def number? : Json → Except NumberError (Option Binary64)
  | integer n => (Binary64.ofIntChecked n).map some
  | number x => .ok (if x.isFinite then some x else none)
  | string text => .ok (Number.leadingNumber? text.toList)
  | _ => .ok none

/-- The number that a value means, or a default. -/
def numberOr (value : Json) (default : Binary64) : Except NumberError Binary64 :=
  return (← value.number?).getD default

/-- The number that a value means, or a default, raised to a floor. -/
def numberAtLeast (value : Json) (default floor : Binary64) : Except NumberError Binary64 :=
  return (← value.numberOr default).max floor

/-- The number that a value is. Flags are zero and one, a text has to be a
number from end to end, and other values are refused. -/
def toBinary64 : Json → Except NumberError Binary64
  | bool value => .ok (if value then 1 else 0)
  | integer n => Binary64.ofIntChecked n
  | number x => .ok x
  | string text =>
    match Number.wholeNumber? text.toList with
    | some x => .ok x
    | none => .error (.notNumeric text)
  | value => .error (.wrongType value.typeName)

def flagWords : List String := ["true", "1", "yes", "on"]

/-- The flag that a loosely typed value means. -/
def flag : Json → Bool
  | bool value => value
  | integer n => n != 0
  | number x => !x.isZero
  | string text => flagWords.contains (Text.key text)
  | _ => false

/-- The value names one of the weights: as a text, or as a number whose code is
one of them. -/
def isWeight (weights : List String) : Json → Except NumberError Bool
  | null => .ok false
  | bool _ => .ok false
  | integer n => do
    let number ← (integer n).number?
    return number.any fun x => weights.contains x.literal
  | number x => do
    let number ← (number x).number?
    return number.any fun x => weights.contains x.literal
  | value => .ok (weights.contains (Text.key value.display))

/-- The displayed text of a value as a name in which case does not count. -/
def displayKey (value : Json) : String :=
  Text.key value.display

theorem number?_null : number? .null = .ok none := rfl

end Json

end Maquette
