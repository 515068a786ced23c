import Maquette.Json.Display
import Maquette.Number.Reading

/-!
# Templates

A template is fixed text with slots in it, and with parts that are repeated for
every item of a list. Rendering fills the slots with the displayed values of a
context; what is filled in is never looked at again, so a value cannot add a
slot or a part of its own. For a markup file the values are escaped.
-/

namespace Maquette

/-- A part of a template. -/
inductive Template.Piece
  /-- Text that stands as it is. -/
  | text (content : String)
  /-- The displayed value of a name. -/
  | slot (name : String)
  /-- The displayed value of a part, which a row of names leads to. -/
  | member (path : List String)
  /-- Pieces for every item of a list, with names for the parts of the item. -/
  | each (names : List String) (source : String) (body : List Template.Piece)

abbrev Template := List Template.Piece

/-- Why a template cannot be rendered. -/
inductive TemplateError
  /-- There is no template of this name, or it is empty. -/
  | notFound (name : String)
  /-- An item has another number of parts than there are names for. -/
  | unevenItem (names parts : Nat)
  /-- A value of this type has no items. -/
  | noItems (typeName : String)
  /-- A name or a part of it begins with an underscore. -/
  | underscore (name : String)
  /-- What stands in a slot goes on after its name. -/
  | remainder (rest slot : String)
deriving DecidableEq

namespace TemplateError

/-- The message of a failed rendering. -/
def message : TemplateError → String
  | notFound name => "Template '" ++ name ++ "' not found"
  | unevenItem names parts =>
    "Need " ++ integerText names ++ " values to unpack in for loop; got " ++
      integerText parts ++ ". "
  | noItems typeName => "'" ++ typeName ++ "' object is not iterable"
  | underscore name =>
    "Variables and attributes may not begin with underscores: '" ++ name ++ "'"
  | remainder rest slot => "Could not parse the remainder: '" ++ rest ++ "' from '" ++ slot ++ "'"

end TemplateError

namespace Template

/-- A character of a markup file. -/
def escapedChar (c : Char) : List Char :=
  if c = '&' then "&amp;".toList
  else if c = '<' then "&lt;".toList
  else if c = '>' then "&gt;".toList
  else if c = '"' then "&quot;".toList
  else if c = '\'' then "&#x27;".toList
  else [c]

/-- A text in a markup file. -/
def escaped (text : String) : String :=
  String.ofList (text.toList.flatMap escapedChar)

/-- The most places a number in a slot may take without an exponent. -/
def slotPlaces : Nat := 200

/-- A number in a slot. A number whose shortest text has an exponent is written
without one, unless that takes too many places. -/
def slotNumber (x : Binary64) : String :=
  match x with
  | .finite negative m =>
    let d := Decimal.shortest m
    let digits := decimalDigits d.coefficient
    let leading := d.exponent + digits.length - 1
    if Notation.plain.positionalFrom ≤ leading ∧ leading < Notation.plain.positionalBelow ∨
        slotPlaces < digits.length + d.exponent.natAbs then x.text
    else if d.exponent < 0 then
      String.ofList (Binary64.signText negative ++ Decimal.positional digits (leading + 1))
    else
      String.ofList
        (Binary64.signText negative ++ digits ++ List.replicate d.exponent.toNat '0')
  | _ => x.text

def slotValue : Json → String
  | .number x => slotNumber x
  | value => value.display

/-- The names that have a value in every context. -/
def constants : Fields := [("True", .bool true), ("False", .bool false), ("None", .null)]

def valueOf? (context : Fields) (name : String) : Option Json :=
  List.lookup name context <|> List.lookup name constants

/-- A value in a slot, escaped in a markup file; nothing if there is none. -/
def filledWith (escape : Bool) : Option Json → String
  | none => ""
  | some value => if escape then escaped (slotValue value) else slotValue value

/-- The text of a slot: nothing if the context does not have the name. -/
def slotText (escape : Bool) (context : Fields) (name : String) : String :=
  filledWith escape (valueOf? context name)

/-- The symbols of a text, each as a text of its own. -/
def textParts (text : String) : List Json :=
  (Text.symbols text.toList).map fun symbol => .string (String.ofList symbol.code)

/-- The part of a value that a name leads to: a field, or the item or symbol at a
place. -/
def part? (value : Json) (name : String) : Option Json :=
  match value with
  | .object fields => List.lookup name fields
  | .array items => place? name >>= fun place => items[place]?
  | .string text => place? name >>= fun place => (textParts text)[place]?
  | _ => none
where
  /-- The place that a name is the number of. -/
  place? (name : String) : Option Nat :=
    (Number.wholeInteger? name.toList).bind Int.toNat?

def memberOf? (context : Fields) : List String → Option Json
  | [] => none
  | name :: rest => (valueOf? context name).bind fun value => rest.foldlM part? value

@[simp] theorem slotValue_string (text : String) : slotValue (.string text) = text := rfl

/-- The parts of a value: the items of a list, the names of an object, the
symbols of a text. Other values have none. -/
def parts? : Json → Option (List Json)
  | .array items => some items
  | .object fields => some (fields.map fun field => .string field.1)
  | .string text => some (textParts text)
  | _ => none

/-- The items that a repetition goes over; nothing and a missing name have
none. -/
def itemsOf (context : Fields) (source : String) : Except TemplateError (List Json) :=
  match (valueOf? context source).getD .null with
  | .null => .ok []
  | value =>
    match parts? value with
    | some items => .ok items
    | none => .error (.noItems value.typeName)

/-- The context with names for the parts of an item. A single name stands for
the whole item, and of equal names the last one counts. -/
def bind (names : List String) (item : Json) (context : Fields) :
    Except TemplateError Fields :=
  match names with
  | [name] => .ok ((name, item) :: context)
  | _ =>
    match parts? item with
    | some parts =>
      if parts.length = names.length then .ok ((names.zip parts).reverse ++ context)
      else .error (.unevenItem names.length parts.length)
    | none => .error (.unevenItem names.length 1)

/-- The pieces once for every item, one after another. -/
def repeated (names : List String) (context : Fields)
    (body : Fields → Except TemplateError String) : List Json → Except TemplateError String
  | [] => .ok ""
  | item :: rest => do
    let inner ← bind names item context
    let first ← body inner
    let more ← repeated names context body rest
    return first ++ more

/-- A template with its slots filled. -/
def render (escape : Bool) : Template → Fields → Except TemplateError String
  | [], _ => .ok ""
  | .text content :: rest, context => do
    let more ← render escape rest context
    return content ++ more
  | .slot name :: rest, context => do
    let more ← render escape rest context
    return slotText escape context name ++ more
  | .member path :: rest, context => do
    let more ← render escape rest context
    return filledWith escape (memberOf? context path) ++ more
  | .each names source body :: rest, context => do
    let items ← itemsOf context source
    let first ← repeated names context (fun inner => render escape body inner) items
    let more ← render escape rest context
    return first ++ more

end Template

end Maquette
