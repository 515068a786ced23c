import Maquette.FileTree.Path
import Maquette.Number.Notation
import Maquette.Text.Quoted

/-!
# File trees

A tree of directories and files, and the two operations on it that a package is
written with: making a directory, and writing a file. An operation follows its path
name by name from the top, and the first name that leads nowhere is its fault. An
operation on the tree either happens or leaves it as it is.

A node is kept under its location, the row of names that leads to it without
detours. The top is always a directory.
-/

namespace Maquette

/-- The names that lead to a node from the top. -/
abbrev Location := List String

/-- What stands at a location. -/
inductive FileTree.Node
  | directory
  | file (content : String)
deriving DecidableEq

/-- Directories and files by location. -/
structure FileTree where
  nodes : List (Location × FileTree.Node)

/-- Why an operation on a tree cannot happen. -/
inductive FileFault
  | notFound
  | alreadyExists
  | notDirectory
  | isDirectory
  | nameTooLong
  /-- The system has a reason of its own, such as a full device. -/
  | system (code : Nat) (wording : String)
deriving DecidableEq

/-- An operation that could not happen, with its path. -/
structure FileProblem where
  fault : FileFault
  path : FilePath
deriving DecidableEq

namespace FileFault

def code : FileFault → Nat
  | notFound => 2
  | alreadyExists => 17
  | notDirectory => 20
  | isDirectory => 21
  | nameTooLong => 36
  | system code _ => code

/-- Whatever the operation is about, or a directory above it, is not there. -/
def isMissing (fault : FileFault) : Bool :=
  fault.code == notFound.code

def wording : FileFault → String
  | notFound => "No such file or directory"
  | alreadyExists => "File exists"
  | notDirectory => "Not a directory"
  | isDirectory => "Is a directory"
  | nameTooLong => "File name too long"
  | system _ wording => wording

end FileFault

/-- The message of an operation that could not happen. -/
def FileProblem.message (p : FileProblem) : String :=
  "[Errno " ++ integerText p.fault.code ++ "] " ++ p.fault.wording ++ ": " ++
    Text.quotedText p.path.text

namespace FileTree

/-- The tree that has only its top. -/
def empty : FileTree := ⟨[]⟩

/-- What stands at a location, if anything does. -/
def node? (t : FileTree) : Location → Option Node
  | [] => some .directory
  | location => t.nodes.lookup location

/-- The tree with a node at a location, in place of any other. -/
def put (t : FileTree) (location : Location) (node : Node) : FileTree :=
  ⟨(location, node) :: t.nodes.filter (·.1 ≠ location)⟩

def files (t : FileTree) : List (Location × String) :=
  t.nodes.filterMap fun (location, node) =>
    match node with
    | .directory => none
    | .file content => some (location, content)

/-- The most bytes in a name. -/
def nameLimit : Nat := 255

/-- The number of bytes that is too long for a whole path. -/
def pathLimit : Nat := 4096

/-- The directory that names lead to from a directory. -/
def enter (t : FileTree) : Location → List String → Except FileFault Location
  | here, [] => .ok here
  | here, name :: rest =>
    if name = ".." then enter t here.dropLast rest
    else if nameLimit < Text.fileSize name.toList then .error .nameTooLong
    else
      match t.node? (here ++ [name]) with
      | none => .error .notFound
      | some (.file _) => .error .notDirectory
      | some .directory => enter t (here ++ [name]) rest

/-- The location of the last name of a path, whose directory has to be there.
`last` is the fault of a path that ends in a directory whatever the tree. -/
def locate (t : FileTree) (p : FilePath) (last : FileFault) : Except FileFault Location :=
  if pathLimit ≤ p.size then .error .nameTooLong
  else
    match p.names.getLast? with
    | none => .error last
    | some name => do
      let here ← t.enter [] p.names.dropLast
      if name = ".." then .error last
      else if nameLimit < Text.fileSize name.toList then .error .nameTooLong
      else return here ++ [name]

def isDirectory (t : FileTree) (p : FilePath) : Bool :=
  p.size < pathLimit && (t.enter [] p.names).isOk

def makeDirectory (t : FileTree) (p : FilePath) : Except FileFault FileTree := do
  let location ← t.locate p .alreadyExists
  match t.node? location with
  | some _ => .error .alreadyExists
  | none => return t.put location .directory

def writeFile (t : FileTree) (p : FilePath) (content : String) : Except FileFault FileTree := do
  let location ← t.locate p .isDirectory
  match t.node? location with
  | some .directory => .error .isDirectory
  | _ => return t.put location (.file content)

theorem node?_put_self {t : FileTree} {location : Location} {node : Node}
    (h : location ≠ []) : (t.put location node).node? location = some node := by
  cases location with
  | nil => exact absurd rfl h
  | cons name rest => simp [put, node?]

theorem lookup_filter_ne {nodes : List (Location × Node)} {location other : Location}
    (h : other ≠ location) :
    (nodes.filter (·.1 ≠ location)).lookup other = nodes.lookup other := by
  induction nodes with
  | nil => rfl
  | cons entry rest ih =>
    obtain ⟨place, node⟩ := entry
    by_cases he : place = location
    · subst he
      rw [List.filter_cons_of_neg (by simp), ih, List.lookup_cons,
        beq_eq_false_iff_ne.2 h]
    · rw [List.filter_cons_of_pos (by simpa using he), List.lookup_cons, List.lookup_cons, ih]

theorem node?_put_of_ne {t : FileTree} {location other : Location} {node : Node}
    (h : other ≠ location) : (t.put location node).node? other = t.node? other := by
  cases other with
  | nil => rfl
  | cons name rest =>
    simp only [put, node?, List.lookup_cons, beq_eq_false_iff_ne.2 h]
    exact lookup_filter_ne h

end FileTree

end Maquette
