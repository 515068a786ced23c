import Maquette.Command
import Maquette.Deployment
import Std.Time.DateTime.Timestamp

/-!
# The command line

Reads the environment, the settings file and the request, and hands them to the
packaging command. The files of a package go to the disk one by one; what the
disk refuses is reported like what a file tree refuses. Texts from outside have no
halves, and are brought into the form that texts are kept in.
-/

namespace Maquette.Command

/-- A text as it is shown outside, where a half cannot be told. -/
def shown (text : String) : String :=
  let outside : Text.Symbol → Char
    | .char c => c
    | .half _ _ => Text.replacement
  String.ofList ((Text.symbols text.toList).map outside)

def currentInstant : IO Instant := do
  let now ← Std.Time.Timestamp.now
  return ⟨now.toNanosecondsSinceUnixEpoch.val.fdiv 1000⟩

/-- The content of a file, if it can be read. -/
def contentOf? (path : String) : IO (Option String) := do
  try
    return some (Text.kept (← IO.FS.readFile (shown path)))
  catch _ =>
    return none

/-- The environment, completed by the settings file of the current directory. -/
def currentEnvironment : IO (Except Environment.Fault Environment) := do
  let mut found : Environment := []
  for name in Deployment.names do
    if let some value ← IO.getEnv name then
      found := (name, Text.kept value) :: found
  return found.completedBy ((← contentOf? ".env").getD "")

/-- The directory that everything else is found in. -/
def currentBase : IO String := do
  return Text.kept (← IO.currentDir).toString

/-- Writes a file on the disk, and gives the error if it could not. -/
def writeFile (path : FilePath) (content : String) : IO (Option CommandError) := do
  let fault := Text.encodingFault? content.toList
  try
    IO.FS.createDirAll (shown path.parent.text)
    IO.FS.writeFile (shown path.text) (if fault.isSome then "" else shown content)
    return fault.map .unencodable
  catch error =>
    return some (.undelivered ["Failed to write project: " ++ Text.kept error.toString])

/-- Writes the files of a package on the disk, up to the first error. -/
def writeFiles (directory : FilePath) : List Package.File → IO (Option CommandError)
  | [] => return none
  | (name, content) :: rest => do
    match ← writeFile (directory.child name) content with
    | some error => return some error
    | none => writeFiles directory rest

def report (message : String) : IO UInt32 := do
  IO.eprintln ("CommandError: " ++ shown message)
  return 1

def deliverToDisk (c : Command) (now : Instant) (p : Package) : IO UInt32 := do
  IO.print (shown (announcement p))
  match p.directory now c.output, p.files with
  | .error error, _ => report error.message
  | _, .error error => report error.message
  | .ok directory, .ok files =>
    match directory.fault? with
    | some fault => report fault.message
    | none =>
      match ← writeFiles directory files with
      | some error => report error.message
      | none =>
        IO.print (shown (success directory))
        return 0

/-- Runs the command on the disk, in an environment. -/
def runIn (environment : Environment) (call : Invocation) : IO UInt32 := do
  match Deployment.ofEnvironment (← currentBase) environment with
  | .error error => report error.message
  | .ok deployment =>
    let now ← currentInstant
    let defaults := Package.Defaults.ofSettings deployment.settings []
    match package defaults now (← contentOf? call.request) with
    | .error error => report error.message
    | .ok p =>
      if call.command.mainOnly then
        match p.mainCode with
        | .error error => report error.message
        | .ok code =>
          IO.print (shown (printed code))
          return 0
      else deliverToDisk call.command now p

def runOnDisk (call : Invocation) : IO UInt32 := do
  match ← currentEnvironment with
  | .error fault => report fault.message
  | .ok environment => runIn environment call

end Maquette.Command

/-- Runs the packaging command. -/
def main (arguments : List String) : IO UInt32 := do
  match Maquette.Invocation.ofArguments? (arguments.map Maquette.Text.kept) with
  | none =>
    IO.eprintln Maquette.Invocation.usage
    return 2
  | some call => Maquette.Command.runOnDisk call
