import Maquette.FileTree.Disk
import Maquette.Package.Basic
import Maquette.Text.Encoding

/-!
# Delivering packages

A package is delivered by writing its files below a directory: a given one, or
one in the output directory that is named for the package and the time. All
files are generated before the first is written, so a package that cannot be
generated leaves no trace.

What the disk refuses is no failure of the delivery: it is recorded as an error,
and the files written before it stay. The errors of several deliveries of a
package add up. A text without an encoding ends the delivery when its turn has
come, and leaves an empty file; a directory whose path has none is never made.
-/

namespace Maquette

/-- The tree that packages are delivered to, and the errors so far. -/
structure Delivery where
  tree : FileTree
  errors : List String

/-- How a delivery has ended. -/
inductive Delivery.Result
  /-- All files were written below this directory. -/
  | complete (directory : FilePath)
  /-- The disk refused something, which is recorded as an error. -/
  | refused
  /-- The directory has a path without an encoding, or the next file a content. -/
  | unencodable (fault : Text.EncodingFault)
deriving DecidableEq

/-- Why a delivery is not even attempted. -/
inductive DeliveryError
  /-- The files of the package cannot be generated. -/
  | package (error : PackageError)
  /-- The output directory is a value of this type and no path. -/
  | notAPath (typeName : String)
  /-- The path has a null character, which no tree accepts. -/
  | nullCharacter
deriving DecidableEq

def DeliveryError.message : DeliveryError → String
  | package error => error.message
  | notAPath typeName => Package.notAPathMessage typeName
  | nullCharacter => "embedded null byte"

namespace Package

def directoryName (p : Package) (now : Instant) : String :=
  p.name ++ "_" ++ now.stamp

/-- The directory that a package is written to: the given one, or one in the
output directory. An empty text gives none. -/
def directory (p : Package) (now : Instant) (output : Option String) :
    Except DeliveryError FilePath :=
  match output.filter (· ≠ "") with
  | some text => .ok (.ofText text)
  | none =>
    match p.defaults.outputDirectory with
    | .string text => .ok ((FilePath.ofText text).child (p.directoryName now))
    | value => .error (.notAPath value.typeName)

end Package

namespace Delivery

/-- The message of an error that the disk gave rise to. -/
def failure (problem : FileProblem) : String :=
  "Failed to write project: " ++ problem.message

/-- The files in front of the first one whose content has no encoding, and that
one with its fault. -/
def encodable : List Package.File → List Package.File × Option (String × Text.EncodingFault)
  | [] => ([], none)
  | (name, content) :: rest =>
    match Text.encodingFault? content.toList with
    | some fault => ([], some (name, fault))
    | none => ((name, content) :: (encodable rest).1, (encodable rest).2)

/-- The disk is left with an empty file in the place of one without an encoding. -/
def breakOff (disk : Disk) (errors : List String) (path : FilePath)
    (fault : Text.EncodingFault) : Result × Delivery :=
  match disk.place path "" with
  | (after, none) => (.unencodable fault, ⟨after.tree, errors⟩)
  | (after, some problem) => (.refused, ⟨after.tree, errors ++ [failure problem]⟩)

/-- Writes files to the disk that has the tree of a delivery, and these refusals. -/
def write (d : Delivery) (directory : FilePath) (files : List Package.File)
    (refusals : List (Option FileFault) := []) : Result × Delivery :=
  match Disk.placeAll directory ⟨d.tree, refusals⟩ (encodable files).1, (encodable files).2 with
  | (after, some problem), _ => (.refused, ⟨after.tree, d.errors ++ [failure problem]⟩)
  | (after, none), none => (.complete directory, ⟨after.tree, d.errors⟩)
  | (after, none), some (name, fault) =>
    breakOff after d.errors (directory.child name) fault

/-- The delivery of a package, and what it has led to. Without refusals, the tree alone
decides what happens. -/
def package (d : Delivery) (p : Package) (now : Instant) (output : Option String)
    (refusals : List (Option FileFault) := []) : Except DeliveryError (Result × Delivery) := do
  let directory ← p.directory now output
  let files ← p.files.mapError .package
  match directory.fault? with
  | some fault => return (.unencodable fault, d)
  | none =>
    if '\x00' ∈ directory.text.toList then .error .nullCharacter
    else return d.write directory files refusals

end Delivery

end Maquette
