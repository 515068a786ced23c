import Maquette.Json.Basic

/-!
# Packaging defaults

What applies where a packaging request leaves something open: the bundle
identifier, the version of the app, the constraint on the SDK, and the directory
that packages are written to. A setting is taken as it is, whatever its type. If
it is not set, the environment is asked for the first two, and the last is below
the directory for media, which therefore has to be set.
-/

namespace Maquette.Package

/-- What applies where a request leaves something open. -/
structure Defaults where
  bundleId : Json
  appVersion : Json
  sdkConstraint : Json
  outputDirectory : Json

/-- Why the defaults cannot be determined. -/
inductive DefaultsError
  /-- The directory for media is not set. -/
  | noMediaRoot
  /-- The directory for media is a value of this type and no path. -/
  | notAPath (typeName : String)
deriving DecidableEq

def notAPathMessage (typeName : String) : String :=
  "expected str, bytes or os.PathLike object, not " ++ typeName

def DefaultsError.message : DefaultsError → String
  | noMediaRoot => ""
  | notAPath typeName => notAPathMessage typeName

namespace Defaults

/-- The bundle identifier if nothing else is set. -/
def standardBundleId : String := "com.visios.nocode"

/-- The version of an app if nothing else is set. -/
def standardAppVersion : String := "1.0.1"

/-- The constraint on the SDK if nothing else is set. -/
def standardSdkConstraint : String := ">=3.0.0 <4.0.0"

def packagesDirectory : String := "flutter_projects"

def below (directory name : String) : String :=
  match directory.toList.getLast? with
  | none => name
  | some last => if last = '/' then directory ++ name else directory ++ "/" ++ name

def outputBelow (mediaRoot : Option Json) : Except DefaultsError String :=
  match mediaRoot with
  | none => .error .noMediaRoot
  | some (.string directory) => .ok (below directory packagesDirectory)
  | some value => .error (.notAPath value.typeName)

/-- A value from the settings, else one from the environment, else a text. -/
def setting (settings : Fields) (environment : List (String × String)) (name standard : String) :
    Json :=
  (List.lookup name settings).getD (.string ((environment.lookup name).getD standard))

def ofSettings (settings : Fields) (environment : List (String × String)) :
    Except DefaultsError Defaults := do
  let output ← outputBelow (List.lookup "MEDIA_ROOT" settings)
  return {
    bundleId := setting settings environment "BUNDLE_ID" standardBundleId
    appVersion := setting settings environment "DEFAULT_APP_VERSION" standardAppVersion
    sdkConstraint := setting settings [] "FLUTTER_SDK_CONSTRAINT" standardSdkConstraint
    outputDirectory := (List.lookup "PACKAGING_OUTPUT_DIR" settings).getD (.string output) }

end Defaults

end Maquette.Package
