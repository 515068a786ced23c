import Maquette.Json.Basic
import Maquette.Number.Decimal
import Maquette.Text.Hex
import Maquette.Text.Symbol

/-!
# Reading values

`read` takes a text that is one JSON value with white space around it. The
standard dialect is that of RFC 8259; the extended one also takes the words for
the numbers without digits. A number with a point or an exponent is a double, as
near as possible, and so infinite when it is too large; one without them is an
integer of any size.

A text from outside is read with `readWithin`, which refuses integers of more
digits and values that nest deeper than its limits allow. The first fault of a
text counts, as it is read from its beginning to its end.

Values nest, so the reader of a value calls itself. It is given fuel, and the
whole text gives it one unit for every character, which is more than it can use:
every call has consumed a character.
-/

namespace Maquette

/-- Whether the words for the numbers without digits are values. -/
inductive Json.Dialect
  | standard
  | extended
deriving DecidableEq

/-- What is wrong with a text that is not read as a value. -/
inductive Json.ReadFault
  /-- It is not written in the dialect. -/
  | malformed
  /-- One of its integers has too many digits. -/
  | tooManyDigits
  /-- It nests too deep; the kind of the bracket that does tells whether it opens
  an object. -/
  | tooDeep (isObject : Bool)
deriving DecidableEq

def Json.tooDeepMessage (isObject : Bool) : String :=
  "maximum recursion depth exceeded while decoding a JSON " ++
    (if isObject then "object" else "array") ++ " from a unicode string"

/-- The most digits of an integer, and the most brackets around a value, where
there is such a limit. -/
structure Json.Limits where
  digits : Option Nat
  depth : Option Nat

namespace Json

def Limits.none : Limits := ⟨.none, .none⟩

/-- The limits for a text from outside, where values may nest so deep. -/
def Limits.outside (depth : Nat) : Limits := ⟨some Number.digitLimit, some depth⟩

/-- The limits inside a bracket, unless it is one too many. -/
def Limits.inside (limits : Limits) (isObject : Bool) : Except ReadFault Limits :=
  match limits.depth with
  | .none => .ok limits
  | some 0 => .error (.tooDeep isObject)
  | some (depth + 1) => .ok { limits with depth := some depth }

/-- A part of a value that is there, or the fault of a malformed text. -/
def present {α : Type} : Option α → Except ReadFault α
  | some found => .ok found
  | .none => .error .malformed

/-- White space between the parts of a value. -/
def isSpace (c : Char) : Bool :=
  c == ' ' || c == '\t' || c == '\n' || c == '\r'

/-- The text after the white space in front. -/
def skipSpace (s : List Char) : List Char :=
  s.dropWhile isSpace

/-- The text after a word it begins with. -/
def skipWord? : (word : List Char) → List Char → Option (List Char)
  | [], s => some s
  | _, [] => none
  | w :: word, c :: s => if w = c then skipWord? word s else none

/-- The number that four hexadecimal digits write. -/
def unit? (a b c d : Char) : Option Nat := do
  let a ← Text.hexValue? a
  let b ← Text.hexValue? b
  let c ← Text.hexValue? c
  let d ← Text.hexValue? d
  return ((a * 16 + b) * 16 + c) * 16 + d

/-- The character that a letter after a backslash stands for. -/
def escapedChar? (c : Char) : Option Char :=
  if c = '"' ∨ c = '\\' ∨ c = '/' then some c
  else if c = 'n' then some '\n'
  else if c = 'r' then some '\r'
  else if c = 't' then some '\t'
  else if c = 'b' then some '\x08'
  else if c = 'f' then some '\x0c'
  else none

/-- The UTF-16 units and other code points of a text up to its closing quotation
mark, and what follows the mark. An escape with four digits stands for a unit, and
every character that the text is kept as for its code point. -/
def readUnits : List Char → Option (List Nat × List Char)
  | [] => none
  | '"' :: rest => some ([], rest)
  | '\\' :: 'u' :: a :: b :: c :: d :: rest => do
    let unit ← unit? a b c d
    let (units, after) ← readUnits rest
    return (unit :: units, after)
  | '\\' :: c :: rest => do
    let escaped ← escapedChar? c
    let (units, after) ← readUnits rest
    return (escaped.toNat :: units, after)
  | c :: rest =>
    if c = '\\' ∨ c.toNat < 0x20 then none
    else do
      let (units, after) ← readUnits rest
      return (c.toNat :: units, after)

/-- The characters of a unit by itself, or of a character that a text is kept as. -/
def unitCode (unit : Nat) : List Char :=
  if Text.isHalf unit then [Text.halfChar unit] else [Char.ofNat unit]

/-- The characters that a row of units and code points is kept as. Two halves of a
pair that stand together are one character. -/
def joinUnits : List Nat → List Char
  | [] => []
  | [unit] => unitCode unit
  | unit :: next :: rest =>
    if Text.isHighHalf unit && Text.isLowHalf next then
      (Text.Symbol.char (Char.ofNat (Text.pairValue unit next))).code ++ joinUnits rest
    else unitCode unit ++ joinUnits (next :: rest)

/-- The text after its opening quotation mark, and what follows the closing one. -/
def readText (s : List Char) : Option (String × List Char) :=
  (readUnits s).map fun (units, after) => (String.ofList (joinUnits units), after)

def isDigit (c : Char) : Bool :=
  '0' ≤ c && c ≤ '9'

/-- The number that a row of ASCII digits writes. -/
def digitsValue (digits : List Char) : Nat :=
  Nat.ofDigitChars 10 digits 0

/-- The digits of the integer part of a number: a zero, or digits that do not
begin with one. -/
def scanWhole : List Char → Option (List Char × List Char)
  | '0' :: rest => some (['0'], rest)
  | s =>
    match s.takeWhile isDigit with
    | [] => none
    | digits => some (digits, s.dropWhile isDigit)

/-- The digits after a point, if there is a point with digits after it. -/
def scanFraction? : List Char → Option (List Char × List Char)
  | '.' :: rest =>
    match rest.takeWhile isDigit with
    | [] => none
    | digits => some (digits, rest.dropWhile isDigit)
  | _ => none

/-- The exponent after its letter, if there are digits after it. -/
def scanExponent? : List Char → Option (Int × List Char)
  | c :: rest =>
    if c = 'e' ∨ c = 'E' then
      let (negative, unsigned) :=
        match rest with
        | '-' :: rest => (true, rest)
        | '+' :: rest => (false, rest)
        | rest => (false, rest)
      match unsigned.takeWhile isDigit with
      | [] => none
      | digits =>
        some (if negative then -(digitsValue digits : Int) else digitsValue digits,
          unsigned.dropWhile isDigit)
    else none
  | [] => none

def readInteger (limits : Limits) (negative : Bool) (digits : List Char) :
    Except ReadFault Json :=
  if limits.digits.any (· < digits.length) then .error .tooManyDigits
  else
    let n : Int := digitsValue digits
    .ok (.integer (if negative then -n else n))

/-- The number a text begins with. -/
def readUnsigned (limits : Limits) (negative : Bool) (s : List Char) :
    Except ReadFault (Json × List Char) := do
  let (whole, afterWhole) ← present (scanWhole s)
  match scanFraction? afterWhole with
  | some (fraction, afterFraction) =>
    let (exponent, after) := (scanExponent? afterFraction).getD (0, afterFraction)
    let decimal : Decimal :=
      ⟨negative, digitsValue (whole ++ fraction), exponent - fraction.length⟩
    return (.number decimal.toBinary64, after)
  | none =>
    match scanExponent? afterWhole with
    | some (exponent, after) =>
      let decimal : Decimal := ⟨negative, digitsValue whole, exponent⟩
      return (.number decimal.toBinary64, after)
    | none => return (← readInteger limits negative whole, afterWhole)

/-- The signed number, or the word for one, that a text begins with. -/
def readNumber (dialect : Dialect) (limits : Limits) (s : List Char) :
    Except ReadFault (Json × List Char) :=
  match s with
  | '-' :: rest =>
    match dialect, skipWord? "Infinity".toList rest with
    | .extended, some after => .ok (.number (.infinite true), after)
    | _, _ => readUnsigned limits true rest
  | _ => readUnsigned limits false s

def readWord (dialect : Dialect) (s : List Char) : Option (Json × List Char) :=
  ((skipWord? "null".toList s).map (Json.null, ·)) <|>
  ((skipWord? "true".toList s).map (Json.bool true, ·)) <|>
  ((skipWord? "false".toList s).map (Json.bool false, ·)) <|>
  (if dialect = .extended then
    ((skipWord? "NaN".toList s).map (Json.number .nan, ·)) <|>
    ((skipWord? "Infinity".toList s).map (Json.number (.infinite false), ·))
  else none)

mutual

/-- The value a text begins with, and what follows it. -/
def readValue (dialect : Dialect) :
    (fuel : Nat) → Limits → List Char → Except ReadFault (Json × List Char)
  | 0, _, _ => .error .malformed
  | fuel + 1, limits, s =>
    match s with
    | '"' :: rest => do
      let (text, after) ← present (readText rest)
      return (.string text, after)
    | '[' :: rest => do
      let inner ← limits.inside false
      match skipSpace rest with
      | ']' :: after => return (.array [], after)
      | inside =>
        let (items, after) ← readItems dialect fuel inner inside
        return (.array items, after)
    | '\x7b' :: rest => do
      let inner ← limits.inside true
      match skipSpace rest with
      | '\x7d' :: after => return (.object [], after)
      | inside =>
        let (pairs, after) ← readFields dialect fuel inner inside
        return (.object (Fields.ofPairs pairs), after)
    | _ =>
      match readWord dialect s with
      | some found => .ok found
      | none => readNumber dialect limits s

/-- The items of an array up to its closing bracket. -/
def readItems (dialect : Dialect) :
    (fuel : Nat) → Limits → List Char → Except ReadFault (List Json × List Char)
  | 0, _, _ => .error .malformed
  | fuel + 1, limits, s => do
    let (item, after) ← readValue dialect fuel limits s
    match skipSpace after with
    | ']' :: rest => return ([item], rest)
    | ',' :: rest =>
      let (items, tail) ← readItems dialect fuel limits (skipSpace rest)
      return (item :: items, tail)
    | _ => .error .malformed

/-- The fields of an object up to its closing bracket. -/
def readFields (dialect : Dialect) :
    (fuel : Nat) → Limits → List Char → Except ReadFault (List (String × Json) × List Char)
  | 0, _, _ => .error .malformed
  | fuel + 1, limits, s =>
    match s with
    | '"' :: rest => do
      let (name, afterName) ← present (readText rest)
      match skipSpace afterName with
      | ':' :: afterColon =>
        let (value, after) ← readValue dialect fuel limits (skipSpace afterColon)
        match skipSpace after with
        | '\x7d' :: tail => return ([(name, value)], tail)
        | ',' :: more =>
          let (fields, tail) ← readFields dialect fuel limits (skipSpace more)
          return ((name, value) :: fields, tail)
        | _ => .error .malformed
      | _ => .error .malformed
    | _ => .error .malformed

end

/-- The value that a text consists of, if it is written in the dialect and keeps
to the limits. Each character of the text begins at most one value and one row of
parts, so the fuel lasts. -/
def readWithin (limits : Limits) (dialect : Dialect) (text : String) : Except ReadFault Json := do
  let s := text.toList
  let (value, after) ← readValue dialect (2 * s.length + 1) limits (skipSpace s)
  if (skipSpace after).isEmpty then return value else .error .malformed

/-- The value that a text consists of, if it is written in the dialect. -/
def read (dialect : Dialect) (text : String) : Option Json :=
  (readWithin .none dialect text).toOption

end Json

end Maquette
