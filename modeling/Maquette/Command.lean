import Maquette.Json.Reader
import Maquette.Package.Delivery

/-!
# The packaging command

The command reads a packaging request from a file and delivers the package, or
only prints the code of its home screen. It reports what it does line by line;
a line that ends by itself gets no second end.

`Command.run` is the command on a file tree in memory. The parts that it is made
of are the ones that a command on a real disk needs.
-/

namespace Maquette

/-- What the command is asked for. -/
structure Command where
  output : Option String
  mainOnly : Bool

/-- A command line: the file of the request, and what is asked for. -/
structure Invocation where
  request : String
  command : Command

/-- Why the command fails. -/
inductive CommandError
  /-- The request is missing or is no JSON. -/
  | unreadable
  /-- The package was not delivered. -/
  | undelivered (errors : List String)
  /-- The defaults cannot be determined. -/
  | defaults (error : Package.DefaultsError)
  /-- The home screen cannot be compiled. -/
  | number (error : NumberError)
  /-- The delivery was not attempted. -/
  | delivery (error : DeliveryError)
  /-- The request nests too deep. -/
  | tooDeep (isObject : Bool)
  /-- A file of the package has no encoding. -/
  | unencodable (fault : Text.EncodingFault)
deriving DecidableEq

def CommandError.message : CommandError → String
  | unreadable => "Could not read payload"
  | undelivered errors =>
    "Failed to generate project: " ++
      (if errors.isEmpty then "Unknown error" else "; ".intercalate errors)
  | defaults error => error.message
  | number error => error.message
  | delivery error => error.message
  | tooDeep isObject => Json.tooDeepMessage isObject
  | unencodable fault => fault.message

namespace Invocation

def usage : String :=
  "usage: maquette payload [--output OUTPUT] [--main-only]"

/-- The command line that goes on with these arguments after a file, if there
was one, and the options in `c`. -/
def continued? (c : Command) : Option String → List String → Option Invocation
  | request, [] => request.map (⟨·, c⟩)
  | request, "--main-only" :: rest => continued? { c with mainOnly := true } request rest
  | request, "--output" :: output :: rest =>
    continued? { c with output := some output } request rest
  | none, path :: rest => continued? c (some path) rest
  | some _, _ :: _ => none

def ofArguments? (arguments : List String) : Option Invocation :=
  continued? { output := none, mainOnly := false } none arguments

end Invocation

namespace Command

/-- A printed text, which ends its last line. -/
def printed (text : String) : String :=
  if text.toList.getLast? = some '\n' then text else text ++ "\n"

def announcement (p : Package) : String :=
  printed ("Packaging app: " ++ p.config.appName)

def success (directory : FilePath) : String :=
  printed ("Successfully generated project at '" ++ directory.text ++ "'")

/-- How deep the values of a request file may nest. -/
def nestingLimit : Nat := 988

def readRequest (content : String) : Except CommandError Json :=
  match Json.readWithin (.outside nestingLimit) .extended content with
  | .ok request => .ok request
  | .error (.tooDeep isObject) => .error (.tooDeep isObject)
  | .error _ => .error .unreadable

/-- The package that the content of a request file asks for. -/
def package (defaults : Except Package.DefaultsError Package.Defaults) (now : Instant)
    (content : Option String) : Except CommandError Package := do
  match content with
  | none => .error .unreadable
  | some content =>
    let request ← readRequest content
    let defaults ← defaults.mapError .defaults
    return .ofRequest defaults now request

/-- What has become of a command: what it printed, what it delivered, and why it
failed if it did. -/
structure Outcome where
  printed : String
  delivery : Delivery
  error : Option CommandError

def runFor (c : Command) (d : Delivery) (now : Instant) (p : Package) : Outcome :=
  if c.mainOnly then
    match p.mainCode with
    | .ok code => ⟨printed code, d, none⟩
    | .error error => ⟨"", d, some (.number error)⟩
  else
    match d.package p now c.output with
    | .error error => ⟨announcement p, d, some (.delivery error)⟩
    | .ok (.complete directory, after) => ⟨announcement p ++ success directory, after, none⟩
    | .ok (.refused, after) => ⟨announcement p, after, some (.undelivered after.errors)⟩
    | .ok (.unencodable fault, after) => ⟨announcement p, after, some (.unencodable fault)⟩

/-- Runs the command on the content of a request file. -/
def run (c : Command) (d : Delivery) (defaults : Except Package.DefaultsError Package.Defaults)
    (now : Instant) (content : Option String) : Outcome :=
  match package defaults now content with
  | .error error => ⟨"", d, some error⟩
  | .ok p => c.runFor d now p

end Command

end Maquette
