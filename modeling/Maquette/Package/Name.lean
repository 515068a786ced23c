import Maquette.Text.Lower
import Maquette.Text.Symbol

/-!
# Package names

The name of a package is made from the name of its app: in lower case, with an
underscore for every symbol that is no ASCII letter or digit. So it is one
word that is safe in a file name and in a header.
-/

namespace Maquette.Package

/-- A lower-case ASCII letter or a digit. -/
def isNameChar (c : Char) : Bool :=
  ('a' ≤ c && c ≤ 'z') || ('0' ≤ c && c ≤ '9')

def nameCharOf : Text.Symbol → Char
  | .char c => if isNameChar c then c else '_'
  | .half _ _ => '_'

def nameChars (appName : List Char) : List Char :=
  (Text.symbols (Text.lower appName)).map nameCharOf

def nameOf (appName : String) : String :=
  String.ofList (nameChars appName.toList)

theorem isNameChar_or_underscore_of_mem_nameChars {appName : List Char} {c : Char}
    (h : c ∈ nameChars appName) : isNameChar c = true ∨ c = '_' := by
  obtain ⟨symbol, -, rfl⟩ := List.mem_map.1 h
  cases symbol with
  | char d => by_cases hd : isNameChar d = true <;> simp [nameCharOf, hd]
  | half unit hunit => exact .inr rfl

end Maquette.Package
