import Maquette.Number.Decimal
import Maquette.Text.Blank
import Maquette.Text.Digit

/-!
# Reading numbers from texts

A number is a sign, digits with a point somewhere among or in front of them, and
an exponent; `scanNumber` takes the longest such beginning off a text. Digits
may be those of any script.

Three readings are built on it. `leadingNumber?` takes the number a text begins
with, as in `16px`. `wholeNumber?` wants the text to be a number and nothing
else, and allows underscores between digits and the words for the numbers that
have no digits. `wholeInteger?` is the same for integers.
-/

namespace Maquette

namespace Number

open Text

/-- The sign a text begins with, minus counting as true, and what follows. -/
def scanSign : List Char → Bool × List Char
  | '+' :: rest => (false, rest)
  | '-' :: rest => (true, rest)
  | rest => (false, rest)

/-- The digits a text begins with, and what follows. -/
def scanDigits (s : List Char) : List Char × List Char :=
  (s.takeWhile isDigit, s.dropWhile isDigit)

/-- The exponent a text begins with, and what follows. A letter without digits
after it is no exponent. -/
def scanExponent (s : List Char) : Int × List Char :=
  match s with
  | c :: rest =>
    if c = 'e' ∨ c = 'E' then
      let (negative, afterSign) := scanSign rest
      match scanDigits afterSign with
      | ([], _) => (0, s)
      | (digits, after) =>
        (if negative then -(digitsValue digits : Int) else digitsValue digits, after)
    else (0, s)
  | [] => (0, s)

/-- The digits before and after the point of the unsigned number a text begins
with, and what follows. A point needs a digit on one side. -/
def scanMantissa (s : List Char) : Option (List Char × List Char × List Char) :=
  match scanDigits s with
  | ([], '.' :: rest) =>
    match scanDigits rest with
    | ([], _) => none
    | (fraction, after) => some ([], fraction, after)
  | ([], _) => none
  | (whole, '.' :: rest) =>
    let (fraction, after) := scanDigits rest
    some (whole, fraction, after)
  | (whole, after) => some (whole, [], after)

/-- The longest number a text begins with, and what follows. -/
def scanNumber (s : List Char) : Option (Decimal × List Char) :=
  let (negative, unsigned) := scanSign s
  match scanMantissa unsigned with
  | none => none
  | some (whole, fraction, afterMantissa) =>
    let (exponent, after) := scanExponent afterMantissa
    some (⟨negative, digitsValue (whole ++ fraction), exponent - fraction.length⟩, after)

/-- The finite number that a text begins with, after white space. The
information separators are white space that may not stand before a number. -/
def leadingNumber? (s : List Char) : Option Binary64 :=
  match scanNumber (s.dropWhile isBlank) with
  | none => none
  | some (d, _) =>
    if (s.takeWhile isBlank).any isSeparatorControl then none
    else if d.toBinary64.isFinite then some d.toBinary64
    else none

/-- White space that may stand around a whole number. -/
def isNumberBlank (c : Char) : Bool :=
  isBlank c && !isSeparatorControl c

/-- The text without the white space that may stand around a whole number. -/
def trimNumber (s : List Char) : List Char :=
  ((s.dropWhile isNumberBlank).reverse.dropWhile isNumberBlank).reverse

/-- The text without its underscores, each of which has to stand between two
digits. The flag tells whether a digit went before. -/
def dropUnderscores? (afterDigit : Bool) : List Char → Option (List Char)
  | [] => some []
  | c :: rest =>
    if c = '_' then
      if afterDigit && (rest.head?.any isDigit) then dropUnderscores? false rest else none
    else (dropUnderscores? (isDigit c) rest).map (c :: ·)

/-- The words for the numbers without digits. -/
def namedNumber? (negative : Bool) (s : List Char) : Option Binary64 :=
  let word := s.map Char.toLower
  if word = "inf".toList ∨ word = "infinity".toList then some (.infinite negative)
  else if word = "nan".toList then some .nan
  else none

/-- The number that a text consists of. -/
def wholeNumber? (s : List Char) : Option Binary64 := do
  let body ← dropUnderscores? false (trimNumber s)
  match scanNumber body with
  | some (d, []) => some d.toBinary64
  | _ =>
    let (negative, word) := scanSign body
    namedNumber? negative word

/-- How many digits a text begins with, after white space and a sign. Single
underscores may stand between them; a text where others do begins with none. -/
def leadingDigits (s : List Char) : Nat :=
  let row := (scanSign (trimNumber s)).2.takeWhile fun c => isDigit c || c == '_'
  match dropUnderscores? false row with
  | none => 0
  | some digits => digits.length

/-- The integer that a text consists of. -/
def wholeInteger? (s : List Char) : Option Int := do
  let body ← dropUnderscores? false (trimNumber s)
  let (negative, unsigned) := scanSign body
  match scanDigits unsigned with
  | ([], _) => none
  | (digits, []) =>
    some (if negative then -(digitsValue digits : Int) else digitsValue digits)
  | _ => none

end Number

end Maquette
