import Maquette.Text.Blank

/-!
# Environments

Texts by name, as a process finds them around it. What a program reads there are
words, lists written with commas, and switches, which are on if they are the word
`True` and nothing else.

A process accepts only names and texts that it can pass on, and `Fault` says
which it does not.
-/

namespace Maquette

/-- Values by name. The first value of a name counts. -/
abbrev Environment := List (String × String)

namespace Environment

/-- Why an environment does not accept a value. -/
inductive Fault
  /-- The name or the value has a null character. -/
  | nullCharacter
  /-- The name has an equals sign. -/
  | equalsSign
deriving DecidableEq

/-- The message of a value that is not accepted. -/
def Fault.message : Fault → String
  | nullCharacter => "embedded null byte"
  | equalsSign => "illegal environment variable name"

/-- What keeps an environment from accepting a value. -/
def fault? (entry : String × String) : Option Fault :=
  if '\x00' ∈ entry.1.toList ∨ '\x00' ∈ entry.2.toList then some .nullCharacter
  else if '=' ∈ entry.1.toList then some .equalsSign
  else none

/-- The environment of these values, if all of them are accepted. -/
def ofEntries (entries : List (String × String)) : Except Fault Environment :=
  match entries.findSome? fault? with
  | some fault => .error fault
  | none => .ok entries

/-- The value of a name, or a default. -/
def value (environment : Environment) (name default : String) : String :=
  (environment.lookup name).getD default

def pieces (environment : Environment) (name default : String) : List String :=
  (Text.pieces (· == ',') (environment.value name default).toList).map String.ofList

/-- The entries of a list: its pieces, empty ones left out. -/
def entries (environment : Environment) (name default : String) : List String :=
  (environment.pieces name default).filter (· ≠ "")

/-- A switch is on. -/
def isOn (environment : Environment) (name default : String) : Bool :=
  environment.value name default == "True"

end Environment

end Maquette
