import Maquette.Text.Blank
import Maquette.Text.Encoding

/-!
# File paths

A path is a row of names behind a beginning: nothing for a path that starts at
the current directory, one or two slashes for one that starts at the top. More
slashes in a row mean one, and the name `.` means nothing, so neither is part of
a path. The name `..` is kept: where it leads is only known in a tree.
-/

namespace Maquette

/-- A path. -/
structure FilePath where
  root : String
  names : List String
deriving DecidableEq

namespace FilePath

/-- The beginning that so many slashes in front write. Two are kept apart from
one, more are one. -/
def rootOf (slashes : Nat) : String :=
  if slashes = 0 then "" else if slashes = 2 then "//" else "/"

def namesOf (text : String) : List String :=
  ((Text.pieces (· == '/') text.toList).map String.ofList).filter
    fun name => name ≠ "" ∧ name ≠ "."

def ofText (text : String) : FilePath where
  root := rootOf (text.toList.takeWhile (· == '/')).length
  names := namesOf text

/-- A path as a text; without names and without a beginning it is the current
directory. -/
def text (p : FilePath) : String :=
  if p.root = "" ∧ p.names = [] then "." else p.root ++ "/".intercalate p.names

/-- The bytes of a path. -/
def size (p : FilePath) : Nat :=
  Text.fileSize p.text.toList

/-- Why a path has no bytes. -/
def fault? (p : FilePath) : Option Text.EncodingFault :=
  Text.fileFault? p.text.toList

/-- The path that leads on along further names. -/
def child (p : FilePath) (relative : String) : FilePath :=
  { p with names := p.names ++ namesOf relative }

/-- The path without its last name, if it has one. -/
def parent (p : FilePath) : FilePath :=
  { p with names := p.names.dropLast }

theorem length_names_parent_lt {p : FilePath} (h : p.names ≠ []) :
    p.parent.names.length < p.names.length := by
  have := List.length_pos_iff.2 h
  simp only [parent, List.length_dropLast]
  omega

end FilePath

end Maquette
