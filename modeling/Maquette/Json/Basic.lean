import Maquette.Number.Binary64

/-!
# Values

The values that a visual builder saves: JSON, with integers of any size kept
apart from the other numbers, and with the fields of an object in the order in
which they were written. The order matters because it shows whenever an object
is written again.

A field that is missing reads as `null`: nothing in this library tells the two
apart when it reads the properties of a component.
-/

namespace Maquette

/-- A value. -/
inductive Json
  | null
  | bool (value : Bool)
  | integer (value : Int)
  | number (value : Binary64)
  | string (text : String)
  | array (items : List Json)
  | object (fields : List (String × Json))

instance : Inhabited Json := ⟨.null⟩

/-- The fields of an object, in order. -/
abbrev Fields := List (String × Json)

namespace Fields

/-- The value of a field, `null` when there is none of that name. -/
def get (fields : Fields) (name : String) : Json :=
  (List.lookup name fields).getD .null

/-- The fields with one of them set: it keeps its place if it was there, and
comes last otherwise. -/
def set (fields : Fields) (name : String) (value : Json) : Fields :=
  match fields with
  | [] => [(name, value)]
  | (other, old) :: rest =>
    if other = name then (other, value) :: rest else (other, old) :: set rest name value

/-- The fields of a written object. Of several fields with one name the last
value counts, at the place of the first. -/
def ofPairs (pairs : List (String × Json)) : Fields :=
  pairs.foldl (fun fields pair => fields.set pair.1 pair.2) []

@[simp] theorem get_nil (name : String) : get [] name = .null := rfl

theorem get_cons (other name : String) (value : Json) (rest : Fields) :
    get ((other, value) :: rest) name = if name = other then value else rest.get name := by
  by_cases h : name = other
  · simp [get, h]
  · simp [get, List.lookup_cons, h, beq_eq_false_iff_ne.2 h]

end Fields

namespace Json

/-- The fields of an object; any other value has none. -/
def fieldsOrNone : Json → Fields
  | object fields => fields
  | _ => []

/-- The items of an array, if the value is one. -/
def items? : Json → Option (List Json)
  | array items => some items
  | _ => none

/-- The fields of an object, if the value is one. -/
def fields? : Json → Option Fields
  | object fields => some fields
  | _ => none

/-- The text of a string, if the value is one. -/
def string? : Json → Option String
  | string text => some text
  | _ => none

def isNull : Json → Bool
  | null => true
  | _ => false

/-- The value is exactly this text. -/
def isString (text : String) : Json → Bool
  | string other => other == text
  | _ => false

/-- A value counts as given unless it is `null` or the empty text. -/
def isPresent : Json → Bool
  | null => false
  | string text => text != ""
  | _ => true

def firstPresent? (values : List Json) : Option Json :=
  values.find? isPresent

/-- The first given value of several, or a default. -/
def firstPresent (values : List Json) (default : Json) : Json :=
  (firstPresent? values).getD default

/-- A value that is neither empty nor zero nor false nor `null`. -/
def isTruthy : Json → Bool
  | null => false
  | bool value => value
  | integer value => value != 0
  | number value => !value.isZero
  | string text => text != ""
  | array items => !items.isEmpty
  | object fields => !fields.isEmpty

def typeName : Json → String
  | null => "NoneType"
  | bool _ => "bool"
  | integer _ => "int"
  | number _ => "float"
  | string _ => "str"
  | array _ => "list"
  | object _ => "dict"

end Json

end Maquette
