import Maquette.Template.Basic
import Maquette.Text.Blank

/-!
# Written templates

The written form of templates: a name in double braces is a slot, and the tags
`for … in …` and `endfor`, each between a brace and a percent sign, enclose a
repeated part. A mark has to end on the line on which it begins; braces that
begin no mark are text.

A name with points in it leads from a value to a part of it. A number in place of
a name stands for itself. Neither a name nor a part of one begins with an
underscore.
-/

namespace Maquette.Template

/-- A stretch of a written template. -/
inductive Mark
  | text (content : List Char)
  | slot (content : List Char)
  | tag (content : List Char)
  | remark

/-- The characters before the next closing pair of the line, and those after
it. -/
def untilClose? (first second : Char) : List Char → Option (List Char × List Char)
  | a :: b :: rest =>
    if a = first ∧ b = second then some ([], rest)
    else if a = '\n' then none
    else (untilClose? first second (b :: rest)).map fun (inside, after) => (a :: inside, after)
  | _ => none

/-- The mark that a text begins with, and what follows it. -/
def markAt? : List Char → Option (Mark × List Char)
  | '\x7b' :: '\x7b' :: rest =>
    (untilClose? '\x7d' '\x7d' rest).map fun (inside, after) => (.slot (Text.trim inside), after)
  | '\x7b' :: '%' :: rest =>
    (untilClose? '%' '\x7d' rest).map fun (inside, after) => (.tag (Text.trim inside), after)
  | '\x7b' :: '#' :: rest =>
    (untilClose? '#' '\x7d' rest).map fun (_, after) => (.remark, after)
  | _ => none

/-- A character in front of the stretches that follow it. -/
def consChar (c : Char) : List Mark → List Mark
  | .text content :: rest => .text (c :: content) :: rest
  | marks => .text [c] :: marks

def marks : (fuel : Nat) → List Char → List Mark
  | 0, _ => []
  | _, [] => []
  | fuel + 1, c :: rest =>
    match markAt? (c :: rest) with
    | some (mark, after) => mark :: marks fuel after
    | none => consChar c (marks fuel rest)

/-- The names and the source of the tag that opens a repeated part. -/
def repetition? (content : List Char) : Option (List String × String) :=
  match Text.words content with
  | keyword :: rest =>
    if keyword = "for".toList then
      let names := rest.dropLast.dropLast
      let joined := (names.intersperse [' ']).flatten
      some ((Text.pieces (· == ',') joined).map fun name => String.ofList (Text.trim name),
        String.ofList (rest.getLast?.getD []))
    else none
  | [] => none

/-- A character that a name may have. Those of other scripts are not looked at any
closer. -/
def isNameChar (c : Char) : Bool :=
  c.isAlphanum || c == '_' || c == '.' || 0x80 ≤ c.toNat

/-- The number that stands in place of a name. One with a point or an exponent is
a double, and does not end in its point. -/
def literal? (name : List Char) : Option Json :=
  if name.any fun c => c == '.' || c == 'e' || c == 'E' then
    if name.getLast? = some '.' then none else (Number.wholeNumber? name).map .number
  else (Number.wholeInteger? name).map .integer

def slotPiece (content : List Char) : Piece :=
  match literal? content with
  | some value => .text (slotValue value)
  | none =>
    match (Text.pieces (· == '.') content).map String.ofList with
    | [name] => .slot name
    | path => .member path

/-- A character of a number with a sign. -/
def isSignedDigit (c : Char) : Bool :=
  Text.isDigit c || c == '.' || c == 'e'

/-- What follows the name or the number that a content begins with. -/
def afterName (content : List Char) : List Char :=
  match content with
  | sign :: digit :: rest =>
    if (sign == '+' || sign == '-') && Text.isDigit digit then rest.dropWhile isSignedDigit
    else content.dropWhile isNameChar
  | _ => content.dropWhile isNameChar

def slotFault? (content : List Char) : Option TemplateError :=
  let rest := afterName content
  if !rest.isEmpty then some (.remainder (String.ofList rest) (String.ofList content))
  else if (literal? content).isSome then none
  else if (Text.pieces (· == '.') content).any fun part => part.head? = some '_' then
    some (.underscore (String.ofList content))
  else none

def Mark.fault? : Mark → Option TemplateError
  | .slot content => slotFault? content
  | .tag content => (repetition? content).bind fun (_, source) => slotFault? source.toList
  | _ => none

/-- The pieces up to the end of a repeated part, and the stretches after it. -/
def piecesOf : (fuel : Nat) → List Mark → Template × List Mark
  | 0, _ => ([], [])
  | _, [] => ([], [])
  | fuel + 1, .text content :: rest =>
    let (pieces, after) := piecesOf fuel rest
    (.text (String.ofList content) :: pieces, after)
  | fuel + 1, .slot content :: rest =>
    let (pieces, after) := piecesOf fuel rest
    (slotPiece content :: pieces, after)
  | fuel + 1, .remark :: rest => piecesOf fuel rest
  | fuel + 1, .tag content :: rest =>
    match repetition? content with
    | some (names, source) =>
      let (body, after) := piecesOf fuel rest
      let (pieces, last) := piecesOf fuel after
      (.each names source body :: pieces, last)
    | none => if content = "endfor".toList then ([], rest) else piecesOf fuel rest

/-- The template that a text writes, or what is wrong with the first mark that
something is wrong with. -/
def ofText (text : String) : Except TemplateError Template :=
  let stretches := marks text.length text.toList
  match stretches.findSome? Mark.fault? with
  | some fault => .error fault
  | none => .ok (piecesOf (stretches.length + 1) stretches).1

end Maquette.Template
