import Maquette.Text.Quoted

/-!
# What can go wrong with a number

The causes for which a value cannot be turned into a number, or a number into
an integer, and the wording of each.
-/

namespace Maquette

/-- Why a conversion between values, numbers and integers fails. -/
inductive NumberError
  /-- An integer is past the largest double. -/
  | integerTooLarge
  /-- An infinite number was to become an integer. -/
  | infiniteInteger
  /-- A not-a-number was to become an integer. -/
  | notANumberInteger
  /-- A text is not the text of a number. -/
  | notNumeric (text : String)
  /-- A value of this type is neither a number nor a text. -/
  | wrongType (typeName : String)
deriving DecidableEq

namespace NumberError

/-- The message of a failed conversion. -/
def message : NumberError → String
  | integerTooLarge => "int too large to convert to float"
  | infiniteInteger => "cannot convert float infinity to integer"
  | notANumberInteger => "cannot convert float NaN to integer"
  | notNumeric text => "could not convert string to float: " ++ Text.quotedText text
  | wrongType typeName =>
    "float() argument must be a string or a real number, not '" ++ typeName ++ "'"

end NumberError

end Maquette
