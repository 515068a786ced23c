import Maquette.Dart.Literal
import Maquette.Document
import Maquette.Json.Printer
import Maquette.Package.Config
import Maquette.Package.Name
import Maquette.Template.Standard

/-!
# Packages

A package is an app with everything that its project needs: the compiled home
screen, the configuration once as a file and once as a literal in the code, and
the manifests for the platforms. `Package.files` gives its files in a fixed
order. Only compiling the home screen can fail, since the other files are
templates filled with texts.
-/

namespace Maquette

/-- An app that is packaged, and the defaults it is packaged under. -/
structure Package where
  config : Package.Config
  defaults : Package.Defaults

/-- Why the files of a package cannot be generated. -/
inductive PackageError
  | number (error : NumberError)
  | template (error : TemplateError)
deriving DecidableEq

/-- The message of files that cannot be generated. -/
def PackageError.message : PackageError → String
  | number error => error.message
  | template error => error.message

namespace Package

/-- A file of a package: its path and its content. -/
abbrev File := String × String

/-- The package that a request asks for at a point in time. -/
def ofRequest (defaults : Defaults) (now : Instant) (request : Json) : Package where
  config := .ofRequest defaults now request
  defaults

def name (p : Package) : String :=
  nameOf p.config.appName

/-- The packages that an app depends on, with the versions. -/
def dependencies : List (String × String) := [
  ("cupertino_icons", "^1.0.2"),
  ("cached_network_image", "^3.3.0"),
  ("http", "^1.1.0"),
  ("path_provider", "^2.1.1"),
  ("shared_preferences", "^2.2.2")]

/-- The packages that the development of an app depends on, with the versions. -/
def devDependencies : List (String × String) := [
  ("flutter_lints", "^2.0.0")]

/-- Pairs of texts as a value. -/
def pairsToJson (pairs : List (String × String)) : Json :=
  .array (pairs.map fun (first, second) => .array [.string first, .string second])

/-- The words of a text with single spaces between them, so that it is one line. -/
def oneLine (text : String) : String :=
  String.ofList ((Text.words text.toList).intersperse [' ']).flatten

/-- The exported configuration as a file. -/
def configFile (p : Package) : String :=
  p.config.toJson.pretty

/-- The values that the templates of a package are filled with. -/
def context (p : Package) : Fields := [
  ("app_name", .string p.config.appName),
  ("comment_name", .string (oneLine p.config.appName)),
  ("package_name", .string p.name),
  ("bundle_id", .string p.config.bundleId),
  ("version", .string p.config.version),
  ("build_number", .string p.config.buildNumber),
  ("build_time", .string p.config.buildTime),
  ("sdk_constraint", p.defaults.sdkConstraint),
  ("dependencies", pairsToJson dependencies),
  ("dev_dependencies", pairsToJson devDependencies),
  ("config_json", .string (Dart.tripleQuoted p.configFile))]

/-- The code of the home screen; without one the app welcomes its user. -/
def mainCode (p : Package) : Except NumberError String :=
  let appName := Json.string p.config.appName
  match p.config.homeScreen? with
  | none => .ok (Document.welcomeCode appName)
  | some screen => (Document.ofScreen appName screen).map (·.code)

def filled (p : Package) (name : String) : Except PackageError String :=
  (TemplateLibrary.empty.render name p.context).mapError .template

/-- The files of a package, in order. -/
def files (p : Package) : Except PackageError (List File) := do
  let manifest ← p.filled "pubspec_yaml"
  let code ← p.mainCode.mapError .number
  let data ← p.filled "screens_data_dart"
  let appleManifest ← p.filled "info_plist"
  let androidManifest ← p.filled "android_manifest"
  let ignored ← p.filled "gitignore"
  let readme ← p.filled "readme"
  return [
    ("pubspec.yaml", manifest),
    ("lib/main.dart", code),
    ("lib/screens_data.dart", data),
    ("assets/app_config.json", p.configFile),
    ("ios/Runner/Info.plist", appleManifest),
    ("android/app/src/main/AndroidManifest.xml", androidManifest),
    (".gitignore", ignored),
    ("README.md", readme)]

end Package

end Maquette
