import Maquette.Json.Display
import Maquette.Json.Reader
import Maquette.Service.Form

/-!
# Fields of a request

The body of a request is an object or a form, whose fields are checked one by
one. A check gives the value that is passed on, or the faults of the field; all
fields are checked, and all their faults are reported together.

A text may be given as a number, which is displayed. White space around it does
not count, neither for its length nor for whether it is there at all. A form has
nothing but texts, so a value of another type is written in it as JSON.
-/

namespace Maquette.Service

/-- What can be wrong with a field. -/
inductive FieldFault
  | missing
  | null
  | blank
  | notText
  | tooLong (limit : Nat)
  | nullCharacter
  | lostHalf (half : Nat)
  | notJson
  | notAnObject
deriving DecidableEq

def FieldFault.message : FieldFault → String
  | missing => "This field is required."
  | null => "This field may not be null."
  | blank => "This field may not be blank."
  | notText => "Not a valid string."
  | tooLong limit =>
    "Ensure this field has no more than " ++ integerText limit ++ " characters."
  | nullCharacter => "Null characters are not allowed."
  | lostHalf half =>
    "Surrogate characters are not allowed: U+" ++
      String.ofList ((Text.hex 4 half).map Char.toUpper) ++ "."
  | notJson => "Value must be valid JSON."
  | notAnObject => "template must be an object"

/-- What is wrong with a value: messages about it, or about some of its fields. -/
inductive Complaint
  | messages (texts : List String)
  | fields (complaints : List (String × Complaint))

def Complaint.ofFaults (faults : List FieldFault) : Complaint :=
  .messages (faults.map FieldFault.message)

mutual

def Complaint.toJson : Complaint → Json
  | messages texts => .array (texts.map .string)
  | fields complaints => .object (fieldsToJson complaints)

def Complaint.fieldsToJson : List (String × Complaint) → Fields
  | [] => []
  | (name, complaint) :: rest => (name, complaint.toJson) :: fieldsToJson rest

end

/-- The name under which messages about a whole object are reported. -/
def wholeObject : String := "non_field_errors"

def Complaint.ofObject (message : String) : Complaint :=
  .fields [(wholeObject, .messages [message])]

def Complaint.notAnObject (value : Json) : Complaint :=
  .ofObject ("Invalid data. Expected a dictionary, but got " ++ value.typeName ++ ".")

/-- How deep the values of a body may nest. -/
def nestingLimit : Nat := 955

/-- The fields of a body. -/
inductive Body
  | fields (given : Fields)
  | form (entries : Form)

/-- What a body gives for a field. -/
inductive Given
  | value (value : Json)
  | entry (value : FormValue)

def Body.given? (body : Body) (name : String) : Option Given :=
  match body with
  | fields given => (List.lookup name given).map .value
  | form entries => (entries.value? name).map .entry

/-- Why a field is not passed on. -/
inductive Rejection
  | complaint (complaint : Complaint)
  /-- Its JSON nests too deep, which no complaint can tell. -/
  | tooDeep (isObject : Bool)

def Rejection.ofFaults (faults : List FieldFault) : Rejection :=
  .complaint (.ofFaults faults)

/-- What a check gives: the value to pass on, none for a field that is left out. -/
abbrev Checked := Except Rejection (Option Json)

/-- Which texts a field takes. -/
structure TextRule where
  required : Bool := false
  allowsBlank : Bool := true
  allowsNull : Bool := false
  limit : Option Nat := none

namespace TextRule

def faults (rule : TextRule) (text : List Char) : List FieldFault :=
  let symbols := Text.symbols text
  ((rule.limit.filter (· < symbols.length)).map FieldFault.tooLong).toList ++
    (if '\x00' ∈ text then [.nullCharacter] else []) ++
    ((symbols.findSome? Text.Symbol.half?).map FieldFault.lostHalf).toList

def checkText (rule : TextRule) (text : String) : Checked :=
  let trimmed := Text.trim text.toList
  match rule.faults trimmed with
  | [] => .ok (some (.string (String.ofList trimmed)))
  | found => .error (.ofFaults found)

def checkUnlessBlank (rule : TextRule) (text : String) (otherwise : Checked) : Checked :=
  if (Text.trim text.toList).isEmpty then
    if rule.allowsBlank then .ok (some (.string "")) else .error (.ofFaults [.blank])
  else otherwise

def checkValue (rule : TextRule) : Json → Checked
  | .string text => rule.checkUnlessBlank text (rule.checkText text)
  | .null => if rule.allowsNull then .ok (some .null) else .error (.ofFaults [.null])
  | .integer n => rule.checkText (Json.integer n).display
  | .number x => rule.checkText (Json.number x).display
  | _ => .error (.ofFaults [.notText])

def check (rule : TextRule) : Option Given → Checked
  | none => if rule.required then .error (.ofFaults [.missing]) else .ok none
  | some (.value value) => rule.checkValue value
  | some (.entry (.text text)) => rule.checkValue (.string text)
  | some (.entry (.file name)) => rule.checkUnlessBlank name (.error (.ofFaults [.notText]))

end TextRule

mutual

/-- Every number in a value is finite. -/
def isFinite : Json → Bool
  | .number x => x.isFinite
  | .array items => itemsFinite items
  | .object fields => fieldsFinite fields
  | _ => true

def itemsFinite : List Json → Bool
  | [] => true
  | item :: rest => isFinite item && itemsFinite rest

def fieldsFinite : List (String × Json) → Bool
  | [] => true
  | (_, value) :: rest => isFinite value && fieldsFinite rest

end

def checkWritten (text : String) : Checked :=
  match Json.readWithin (.outside nestingLimit) .standard text with
  | .ok value => .ok (some value)
  | .error (.tooDeep isObject) => .error (.tooDeep isObject)
  | .error _ => .error (.ofFaults [.notJson])

/-- Checks a field that takes any value but `null`. In a form it is written as
JSON, where `null` is a value like any other. -/
def checkAny : Option Given → Checked
  | none => .error (.ofFaults [.missing])
  | some (.value .null) => .error (.ofFaults [.null])
  | some (.value value) =>
    if isFinite value then .ok (some value) else .error (.ofFaults [.notJson])
  | some (.entry (.text text)) => checkWritten text
  | some (.entry (.file name)) => checkWritten name

def checkObject (given : Option Given) : Checked := do
  match ← checkAny given with
  | some (.object fields) => return some (.object fields)
  | _ => .error (.ofFaults [.notAnObject])

/-- The complaint about a field, if there is one. -/
def complaint? (field : String × Checked) : Option (String × Complaint) :=
  match field.2 with
  | .error (.complaint complaint) => some (field.1, complaint)
  | _ => none

/-- A field nests too deep, in an object or not. -/
def tooDeep? (field : String × Checked) : Option Bool :=
  match field.2 with
  | .error (.tooDeep isObject) => some isObject
  | _ => none

/-- The field that is passed on, if there is one. -/
def passed? (field : String × Checked) : Option (String × Json) :=
  match field.2 with
  | .ok (some value) => some (field.1, value)
  | _ => none

/-- The fields that are passed on, or the complaints about all of them. -/
def gather (fields : List (String × Checked)) : Except Rejection Fields :=
  match fields.findSome? tooDeep? with
  | some isObject => .error (.tooDeep isObject)
  | none =>
    match fields.filterMap complaint? with
    | [] => .ok (fields.filterMap passed?)
    | complaints => .error (.complaint (.fields complaints))

def Body.ofValue : Json → Except Complaint Body
  | .object given => .ok (.fields given)
  | .null => .error (.ofObject "No data provided")
  | value => .error (.notAnObject value)

/-- Checks the fields of an object in a field. In a form it is a form within the
form, which is there if one of its values is. -/
def checkNested (check : Body → List (String × Checked)) (name : String) (body : Body) : Checked :=
  let checked (inner : Body) : Checked :=
    (gather (check inner)).map fun passed => some (.object passed)
  match body with
  | .form entries =>
    match entries.inner name with
    | [] => .error (.ofFaults [.missing])
    | inner => checked (.form inner)
  | .fields given =>
    match List.lookup name given with
    | none => .error (.ofFaults [.missing])
    | some .null => .error (.ofFaults [.null])
    | some (.object fields) => checked (.fields fields)
    | some value => .error (.complaint (.notAnObject value))

end Maquette.Service
