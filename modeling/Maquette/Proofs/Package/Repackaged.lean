import Maquette.Package.Basic
import Maquette.Proofs.Screen.Exported

/-!
# Packaging from an exported configuration

An exported configuration says everything that a package was made from, so a request
that repeats it asks for the same package. Each value went through a chain of fallbacks
when the first request was read, and the request that repeats it has the outcome of the
chain in the first place. The outcome counts as missing there only if it is empty; then
the chain ends in its default again, and the default is what was empty.
-/

namespace Maquette.Package

namespace Config

/-- The request for an app as its exported configuration describes it. -/
def requestOf (exported : Json) : Json :=
  let fields := exported.fieldsOrNone
  .object [
    ("template", .object [("screens", fields.get "screens")]),
    ("deploymentInfo", .object [
      ("appName", fields.get "appName"),
      ("bundleId", fields.get "bundleId"),
      ("version", fields.get "version"),
      ("buildNumber", fields.get "buildNumber"),
      ("appIcon", fields.get "appIcon")]),
    ("projectId", fields.get "projectId"),
    ("templateId", fields.get "templateId")]

/-- The outcome of a chain of fallbacks, given to a chain that ends in the same default,
is its outcome again. An empty outcome is not taken for a given value, but only an empty
default leads to one. -/
theorem textOf_textOf (values : List Json) (default : Json) :
    textOf [.string (textOf values default)] default = textOf values default := by
  by_cases hempty : textOf values default = ""
  · have hdefault : default.display = "" := by
      unfold textOf Json.firstPresent Json.firstPresent? at hempty
      cases hfound : values.find? Json.isPresent with
      | none =>
        rw [hfound] at hempty
        exact hempty
      | some value =>
        rw [hfound] at hempty
        exact absurd hempty (Json.display_ne_empty (List.find?_some hfound))
    rw [hempty, textOf, Json.firstPresent_empty]
    exact hdefault
  · rw [textOf, Json.firstPresent_string hempty, Json.display_string]

/-- The name of an app is never empty, so the name of a template does not matter any
more. -/
theorem textOf_appName (values : List Json) :
    textOf [.string (textOf values (.string defaultAppName)), .null] (.string defaultAppName) =
      textOf values (.string defaultAppName) := by
  have hname : textOf values (.string defaultAppName) ≠ "" :=
    Json.display_firstPresent_ne_empty values (by decide)
  generalize textOf values (.string defaultAppName) = name at hname ⊢
  rw [textOf, Json.firstPresent_string hname, Json.display_string]

theorem icon_icon (icon : Json) :
    (if (if icon.isTruthy then icon else .null).isTruthy
      then (if icon.isTruthy then icon else .null) else .null) =
        if icon.isTruthy then icon else .null := by
  by_cases h : icon.isTruthy = true
  · rw [if_pos h, if_pos h]
  · rw [if_neg h, ite_self]

/-- Reading a request that repeats an exported configuration gives the configuration. -/
theorem ofRequest_requestOf (defaults : Defaults) (now : Instant) (request : Json) :
    ofRequest defaults now (requestOf (ofRequest defaults now request).toJson) =
      ofRequest defaults now request := by
  generalize hc : ofRequest defaults now request = c
  have hname : textOf [.string c.appName, .null] (.string defaultAppName) = c.appName := by
    rw [← hc]
    exact textOf_appName _
  have hbundle : textOf [.string c.bundleId] defaults.bundleId = c.bundleId := by
    rw [← hc]
    exact textOf_textOf _ _
  have hscreens : Screen.listOfValue (.array (c.screens.map Screen.toJson)) = c.screens := by
    rw [← hc]
    exact Screen.listOfValue_map_toJson _
  have hversion : textOf [.string c.version] defaults.appVersion = c.version := by
    rw [← hc]
    exact textOf_textOf _ _
  have hbuild : textOf [.string c.buildNumber] (.integer now.wholeSeconds) = c.buildNumber := by
    rw [← hc]
    exact textOf_textOf _ _
  have htime : now.isoText = c.buildTime := by
    rw [← hc]
    rfl
  have hicon : (if c.appIcon.isTruthy then c.appIcon else .null) = c.appIcon := by
    rw [← hc]
    exact icon_icon _
  calc ofRequest defaults now (requestOf c.toJson)
    _ = ⟨textOf [.string c.appName, .null] (.string defaultAppName),
          textOf [.string c.bundleId] defaults.bundleId,
          Screen.listOfValue (.array (c.screens.map Screen.toJson)),
          textOf [.string c.version] defaults.appVersion,
          textOf [.string c.buildNumber] (.integer now.wholeSeconds), now.isoText,
          if c.appIcon.isTruthy then c.appIcon else .null, c.projectId, c.templateId⟩ := rfl
    _ = c := by rw [hname, hbundle, hscreens, hversion, hbuild, htime, hicon]

end Config

/-- Packaging again from the exported configuration, under the same defaults and at the
same time, exports the same configuration, and gives the same files or the same error. -/
theorem repackaged_eq (defaults : Defaults) (now : Instant) (request : Json) :
    let first := ofRequest defaults now request
    let again := ofRequest defaults now (Config.requestOf first.config.toJson)
    again.config.toJson = first.config.toJson ∧ again.files = first.files := by
  have hconfig : (ofRequest defaults now
      (Config.requestOf (ofRequest defaults now request).config.toJson)).config =
        (ofRequest defaults now request).config :=
    Config.ofRequest_requestOf defaults now request
  have hpackage : ofRequest defaults now
      (Config.requestOf (ofRequest defaults now request).config.toJson) =
        ofRequest defaults now request :=
    congrArg (Package.mk · defaults) hconfig
  exact ⟨congrArg Config.toJson hconfig, congrArg files hpackage⟩

end Maquette.Package
