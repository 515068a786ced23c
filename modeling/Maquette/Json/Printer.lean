import Maquette.Json.Basic
import Maquette.Number.Notation
import Maquette.Text.Hex
import Maquette.Text.Symbol

/-!
# Writing values as JSON

Written values are ASCII: a character outside it, or one that does not print, is
written as one or two escapes of a UTF-16 unit each. `pretty` sets every item on
a line of its own, two columns further in than the brackets around it, and
`compact` writes everything on one line. `compactText` does so too, but leaves
the characters outside ASCII as they are.

Numbers are written in their shortest form. The numbers without digits are
written as words, which is more than the standard allows.
-/

namespace Maquette.Json

def unitEscape (unit : Nat) : List Char :=
  '\\' :: 'u' :: Text.hex 4 unit

/-- A character outside printable ASCII, as the escapes of its UTF-16 units. -/
def charEscape (c : Char) : List Char :=
  let n := c.toNat
  if n < 0x10000 then unitEscape n
  else unitEscape (0xd800 + (n - 0x10000) / 0x400) ++ unitEscape (0xdc00 + (n - 0x10000) % 0x400)

/-- The escape of a character that has one of its own. -/
def shortEscape? (c : Char) : Option Char :=
  if c = '"' ∨ c = '\\' then some c
  else if c = '\n' then some 'n'
  else if c = '\r' then some 'r'
  else if c = '\t' then some 't'
  else if c = '\x08' then some 'b'
  else if c = '\x0c' then some 'f'
  else none

/-- A character between the quotation marks of a written text. -/
def writtenChar (c : Char) : List Char :=
  match shortEscape? c with
  | some letter => ['\\', letter]
  | none => if ' ' ≤ c ∧ c ≤ '~' then [c] else charEscape c

/-- A symbol between the quotation marks of a written text. A half is one unit. -/
def writtenSymbol : Text.Symbol → List Char
  | .char c => writtenChar c
  | .half unit _ => unitEscape unit

/-- A character between the quotation marks of a text that need not be ASCII.
Only what would end the text or a line is escaped. -/
def openChar (c : Char) : List Char :=
  match shortEscape? c with
  | some letter => ['\\', letter]
  | none => if c < ' ' ∨ c = '\u2028' ∨ c = '\u2029' then charEscape c else [c]

def writtenString (text : String) : String :=
  String.ofList ('"' :: (Text.symbols text.toList).flatMap writtenSymbol ++ ['"'])

/-- A written text that need not be ASCII. -/
def openString (text : String) : String :=
  String.ofList ('"' :: text.toList.flatMap openChar ++ ['"'])

def writtenNumber : Binary64 → String
  | .infinite negative => if negative then "-Infinity" else "Infinity"
  | .nan => "NaN"
  | x => x.text

/-- The beginning of a line so many levels in. -/
def levelIndent (level : Nat) : String :=
  String.ofList (List.replicate (2 * level) ' ')

mutual

/-- A value whose items are on lines of their own, inside so many brackets. -/
def prettyAt (level : Nat) : Json → String
  | null => "null"
  | bool value => if value then "true" else "false"
  | integer value => integerText value
  | number value => writtenNumber value
  | string text => writtenString text
  | array [] => "[]"
  | array items => "[\n" ++ prettyItems (level + 1) items ++ "\n" ++ levelIndent level ++ "]"
  | object [] => "\x7b\x7d"
  | object fields =>
    "\x7b\n" ++ prettyFields (level + 1) fields ++ "\n" ++ levelIndent level ++ "\x7d"

/-- The items of an array, a line or more for each. -/
def prettyItems (level : Nat) : List Json → String
  | [] => ""
  | [item] => levelIndent level ++ prettyAt level item
  | item :: rest => levelIndent level ++ prettyAt level item ++ ",\n" ++ prettyItems level rest

/-- The fields of an object, a line or more for each. -/
def prettyFields (level : Nat) : List (String × Json) → String
  | [] => ""
  | [(name, value)] => levelIndent level ++ writtenString name ++ ": " ++ prettyAt level value
  | (name, value) :: rest =>
    levelIndent level ++ writtenString name ++ ": " ++ prettyAt level value ++ ",\n" ++
      prettyFields level rest

end

/-- A value set out over several lines. -/
def pretty (value : Json) : String :=
  prettyAt 0 value

mutual

/-- A value on one line without spaces, its texts written as `write` does. -/
def compactWith (write : String → String) : Json → String
  | null => "null"
  | bool value => if value then "true" else "false"
  | integer value => integerText value
  | number value => writtenNumber value
  | string text => write text
  | array items => "[" ++ compactItems write items ++ "]"
  | object fields => "\x7b" ++ compactFields write fields ++ "\x7d"

/-- The items of an array on one line. -/
def compactItems (write : String → String) : List Json → String
  | [] => ""
  | [item] => compactWith write item
  | item :: rest => compactWith write item ++ "," ++ compactItems write rest

/-- The fields of an object on one line. -/
def compactFields (write : String → String) : List (String × Json) → String
  | [] => ""
  | [(name, value)] => write name ++ ":" ++ compactWith write value
  | (name, value) :: rest =>
    write name ++ ":" ++ compactWith write value ++ "," ++ compactFields write rest

end

/-- A value on one line in ASCII. -/
def compact (value : Json) : String :=
  value.compactWith writtenString

def compactText (value : Json) : String :=
  value.compactWith openString

end Maquette.Json
