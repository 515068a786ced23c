import Maquette.FileTree.Basic

/-!
# Disks

A disk has a tree, and reasons of its own to refuse an operation on it: it may be full,
or not be ours. Which of the coming operations it refuses is not known from the tree, so
it comes with the disk, operation by operation. An operation that is refused leaves
the tree as it is; what was made before stays.

A directory is made with those above it. A missing directory is taken for the one above,
which is made first, and whatever else goes wrong is no problem if the directory is
there.
-/

namespace Maquette

/-- A tree, and for every coming operation the reason to refuse it, if there is one. Behind
the last entry nothing is refused but what the tree does not have room for. -/
structure Disk where
  tree : FileTree
  refusals : List (Option FileFault) := []

namespace Disk

/-- The disk after an operation, and why it could not happen. -/
def perform (d : Disk) (operation : FileTree → Except FileFault FileTree) :
    Disk × Option FileFault :=
  let later := d.refusals.tail
  match d.refusals.head?.join with
  | some fault => (⟨d.tree, later⟩, some fault)
  | none =>
    match operation d.tree with
    | .ok tree => (⟨tree, later⟩, none)
    | .error fault => (⟨d.tree, later⟩, some fault)

def makeDirectory (d : Disk) (p : FilePath) : Disk × Option FileFault :=
  d.perform (·.makeDirectory p)

def writeFile (d : Disk) (p : FilePath) (content : String) : Disk × Option FileFault :=
  d.perform (·.writeFile p content)

/-- A directory could not be made, which is no problem if it is there. -/
def unlessThere (d : Disk) (p : FilePath) (fault : FileFault) : Disk × Option FileProblem :=
  (d, if d.tree.isDirectory p then none else some ⟨fault, p⟩)

/-- The disk with a directory and those above it, made where they are missing,
and the problem if one could not be. -/
def ensureDirectory (d : Disk) (p : FilePath) : Disk × Option FileProblem :=
  match d.makeDirectory p with
  | (made, none) => (made, none)
  | (after, some fault) =>
    if fault.isMissing then
      if _h : p.names = [] then (after, some ⟨fault, p⟩)
      else
        match ensureDirectory after p.parent with
        | (above, some problem) => (above, some problem)
        | (above, none) =>
          match above.makeDirectory p with
          | (made, none) => (made, none)
          | (again, some fault) =>
            if fault.isMissing then (again, some ⟨fault, p⟩) else again.unlessThere p fault
    else after.unlessThere p fault
termination_by p.names.length
decreasing_by exact FilePath.length_names_parent_lt _h

/-- The disk with a file written in a directory that is made if it is missing,
and the problem if that could not be. -/
def place (d : Disk) (p : FilePath) (content : String) : Disk × Option FileProblem :=
  match d.ensureDirectory p.parent with
  | (above, some problem) => (above, some problem)
  | (above, none) =>
    match above.writeFile p content with
    | (written, none) => (written, none)
    | (after, some fault) => (after, some ⟨fault, p⟩)

/-- The disk with files written below a directory, one after another, and the
problem that ended it if there was one. -/
def placeAll (directory : FilePath) :
    Disk → List (String × String) → Disk × Option FileProblem
  | d, [] => (d, none)
  | d, (name, content) :: rest =>
    match d.place (directory.child name) content with
    | (after, some problem) => (after, some problem)
    | (after, none) => placeAll directory after rest

end Disk

end Maquette
