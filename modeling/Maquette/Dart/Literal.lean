/-!
# String literals

How a text is written in Dart code. In single quotes the quotation mark, the
backslash, the dollar sign and the two line ends are written with a backslash;
everything else stands for itself. In triple quotes lines may end, and of the
quotation marks only three in a row are written with backslashes.
-/

namespace Maquette.Dart

/-- A character between single quotes. -/
def quotedChar (c : Char) : List Char :=
  if c = '\\' then ['\\', '\\']
  else if c = '\'' then ['\\', '\'']
  else if c = '$' then ['\\', '$']
  else if c = '\r' then ['\\', 'r']
  else if c = '\n' then ['\\', 'n']
  else [c]

/-- A text between single quotes. -/
def quotedChars (s : List Char) : List Char :=
  '\'' :: s.flatMap quotedChar ++ ['\'']

def quoted (text : String) : String :=
  String.ofList (quotedChars text.toList)

def tripleQuotedChars : List Char → List Char
  | [] => []
  | '\'' :: '\'' :: '\'' :: rest =>
    '\\' :: '\'' :: '\\' :: '\'' :: '\\' :: '\'' :: tripleQuotedChars rest
  | c :: rest =>
    if c = '\\' then '\\' :: '\\' :: tripleQuotedChars rest
    else if c = '$' then '\\' :: '$' :: tripleQuotedChars rest
    else c :: tripleQuotedChars rest

def tripleQuoted (text : String) : String :=
  String.ofList (tripleQuotedChars text.toList)

end Maquette.Dart
