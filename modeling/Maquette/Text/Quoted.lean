import Maquette.Text.Hex
import Maquette.Text.Printable
import Maquette.Text.Symbol

/-!
# Texts shown in quotes

A text inside a shown list or object, and a text named in a message, is put in
quotes: single ones, unless the text has a single quote and no double quote.
Characters that do not stand for themselves are written as escapes, the
unprintable ones by their code point.
-/

namespace Maquette.Text

def quoteMark (s : List Char) : Char :=
  if '\'' ∈ s ∧ '"' ∉ s then '"' else '\''

/-- The escape of a code point that does not print. -/
def codePointEscape (n : Nat) : List Char :=
  if n < 0x100 then '\\' :: 'x' :: hex 2 n
  else if n < 0x10000 then '\\' :: 'u' :: hex 4 n
  else '\\' :: 'U' :: hex 8 n

/-- A character between quotation marks. -/
def quotedChar (mark c : Char) : List Char :=
  if c = mark ∨ c = '\\' then ['\\', c]
  else if c = '\n' then ['\\', 'n']
  else if c = '\r' then ['\\', 'r']
  else if c = '\t' then ['\\', 't']
  else if isPrintable c then [c]
  else codePointEscape c.toNat

/-- A symbol between quotation marks. A half does not print. -/
def quotedSymbol (mark : Char) : Symbol → List Char
  | .char c => quotedChar mark c
  | .half unit _ => codePointEscape unit

def quoted (s : List Char) : List Char :=
  let mark := quoteMark s
  mark :: (symbols s).flatMap (quotedSymbol mark) ++ [mark]

/-- A text in quotes, as a string. -/
def quotedText (s : String) : String :=
  String.ofList (quoted s.toList)

end Maquette.Text
