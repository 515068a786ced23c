import Maquette.Json.Basic
import Maquette.Number.Notation
import Maquette.Text.Quoted

/-!
# Values as displayed texts

Wherever a text is expected, any value will do, and it is displayed: a text as
it is, a number in its shortest form, an array or object in brackets with the
texts inside it in quotes.
-/

namespace Maquette.Json

mutual

/-- A value as it appears inside a displayed array or object. -/
def shown : Json → String
  | null => "None"
  | bool value => if value then "True" else "False"
  | integer value => integerText value
  | number value => value.text
  | string text => Text.quotedText text
  | array items => "[" ++ shownItems items ++ "]"
  | object fields => "\x7b" ++ shownFields fields ++ "\x7d"

def shownItems : List Json → String
  | [] => ""
  | [item] => shown item
  | item :: rest => shown item ++ ", " ++ shownItems rest

def shownFields : List (String × Json) → String
  | [] => ""
  | [(name, value)] => Text.quotedText name ++ ": " ++ shown value
  | (name, value) :: rest =>
    Text.quotedText name ++ ": " ++ shown value ++ ", " ++ shownFields rest

end

def display : Json → String
  | string text => text
  | value => shown value

@[simp] theorem display_string (text : String) : display (.string text) = text := rfl

end Maquette.Json
