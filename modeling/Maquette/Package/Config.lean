import Maquette.Calendar
import Maquette.Header
import Maquette.Package.Defaults
import Maquette.Screen

/-!
# App configurations

What a packaged app knows of itself: its names, its version, its screens, and
when it was built. A packaging request may leave out everything and may have
values of any type, so reading one never fails.

A configuration is exported as an object that is part of the package.
-/

namespace Maquette.Package

/-- What a packaged app knows of itself. -/
structure Config where
  appName : String
  bundleId : String
  screens : List Screen
  version : String
  buildNumber : String
  buildTime : String
  appIcon : Json
  projectId : Json
  templateId : Json

namespace Config

/-- The displayed text of the first given value, or of a default. -/
def textOf (values : List Json) (default : Json) : String :=
  (Json.firstPresent values default).display

/-- The configuration that a packaging request asks for at a point in time. -/
def ofRequest (defaults : Defaults) (now : Instant) (request : Json) : Config :=
  let fields := request.fieldsOrNone
  let template := (fields.get "template").fieldsOrNone
  let deployment := (fields.get "deploymentInfo").fieldsOrNone
  let icon := deployment.get "appIcon"
  { appName :=
      textOf [deployment.get "appName", template.get "name"] (.string defaultAppName)
    bundleId := textOf [deployment.get "bundleId"] defaults.bundleId
    screens := Screen.listOfValue (template.get "screens")
    version := textOf [deployment.get "version"] defaults.appVersion
    buildNumber := textOf [deployment.get "buildNumber"] (.integer now.wholeSeconds)
    buildTime := now.isoText
    appIcon := if icon.isTruthy then icon else .null
    projectId := fields.get "projectId"
    templateId := fields.get "templateId" }

/-- The exported form of a configuration. -/
def toJson (c : Config) : Json :=
  .object [
    ("appName", .string c.appName),
    ("bundleId", .string c.bundleId),
    ("screens", .array (c.screens.map Screen.toJson)),
    ("projectId", c.projectId),
    ("templateId", c.templateId),
    ("buildTime", .string c.buildTime),
    ("appIcon", c.appIcon),
    ("version", .string c.version),
    ("buildNumber", .string c.buildNumber)]

/-- The first screen, which is the one that is compiled. -/
def homeScreen? (c : Config) : Option Screen :=
  c.screens.head?

end Config

end Maquette.Package
