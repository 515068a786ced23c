import Maquette.Command
import Maquette.Proofs.Json.Written
import Maquette.Proofs.Package.Config

/-!
# Which configuration files are standard JSON

The configuration file of a package is written from values that are copied from its
request, and from texts. The command takes requests in the extended dialect, which has
words for the numbers without digits and takes a number that is too large for infinite.
Such a number is copied and written as a word, and no other value is written in a way
that the standard does not have.
-/

namespace Maquette.Package

open Service (isFinite itemsFinite fieldsFinite)

namespace Config

/-- The values that a configuration has from its request as they are: those that the
package is known by, its icon, and from each of its screens the properties, the metadata
and the components. -/
def copiedValues (request : Json) : List Json :=
  let fields := request.fieldsOrNone
  [fields.get "projectId", fields.get "templateId",
    (fields.get "deploymentInfo").fieldsOrNone.get "appIcon"] ++
  (((fields.get "template").fieldsOrNone.get "screens").items?.getD []).flatMap fun value =>
    .object (Screen.ofValue value).properties :: .object (Screen.ofValue value).metadata ::
      (Screen.componentEntries value.fieldsOrNone).filter fun entry => entry.fields?.isSome

end Config

theorem itemsFinite_eq_all (items : List Json) : itemsFinite items = items.all isFinite := by
  induction items with
  | nil => rfl
  | cons item items ih => rw [itemsFinite, List.all_cons, ih]

/-- An icon that is left out is finite: the only number it can be is zero. -/
theorem isFinite_icon (icon : Json) :
    isFinite (if icon.isTruthy then icon else .null) = isFinite icon := by
  cases h : icon.isTruthy with
  | true => rfl
  | false =>
    rw [if_neg Bool.false_ne_true]
    cases icon with
    | number x =>
      cases x with
      | finite s m => rfl
      | infinite s => cases h
      | nan => cases h
    | array items =>
      cases items with
      | nil => rfl
      | cons item items => cases h
    | object fields =>
      cases fields with
      | nil => rfl
      | cons field fields => cases h
    | _ => rfl

theorem isFinite_screen (value : Json) :
    isFinite (Screen.ofValue value).toJson =
      (isFinite (.object (Screen.ofValue value).properties) &&
        (isFinite (.object (Screen.ofValue value).metadata) &&
          ((Screen.componentEntries value.fieldsOrNone).filter
            fun entry => entry.fields?.isSome).all isFinite)) := by
  simp only [Screen.toJson, isFinite, fieldsFinite, Screen.map_toJson_components,
    itemsFinite_eq_all, Bool.true_and, Bool.and_true]
  rw [Bool.and_comm, Bool.and_assoc]

/-- A configuration has no numbers but those in the values that it copies. -/
theorem isFinite_config (defaults : Defaults) (now : Instant) (request : Json) :
    isFinite (Config.ofRequest defaults now request).toJson =
      (Config.copiedValues request).all isFinite := by
  have hscreens : ((Config.ofRequest defaults now request).screens.map Screen.toJson).all
      isFinite = ((((request.fieldsOrNone.get "template").fieldsOrNone.get
        "screens").items?.getD []).all fun value => isFinite (Screen.ofValue value).toJson) := by
    rw [List.all_map]
    exact List.all_map
  simp only [Config.toJson, isFinite, fieldsFinite, itemsFinite_eq_all, hscreens,
    isFinite_screen, Bool.true_and, Bool.and_true]
  simp only [Config.copiedValues, List.all_append, List.all_cons, List.all_nil, List.all_flatMap,
    Bool.and_true]
  rw [Config.ofRequest]
  dsimp only
  rw [isFinite_icon, Bool.and_comm]
  rfl

theorem isDocument_configFile (defaults : Defaults) (now : Instant) (request : Json) :
    Json.Grammar.IsDocument (ofRequest defaults now request).configFile ↔
      ∀ value ∈ Config.copiedValues request, isFinite value = true := by
  have hconfig : isFinite (ofRequest defaults now request).config.toJson =
      (Config.copiedValues request).all isFinite := isFinite_config defaults now request
  rw [configFile, Json.Grammar.isDocument_pretty_iff, hconfig, List.all_eq_true]

/-- What the command makes is the package of the request that it reads. -/
theorem exists_of_command {defaults : Defaults} {now : Instant} {content : String} {p : Package}
    (h : Command.package (.ok defaults) now (some content) = .ok p) :
    ∃ request, Command.readRequest content = .ok request ∧ p = ofRequest defaults now request := by
  obtain ⟨request, hrequest, h⟩ := exists_of_bind_eq_ok h
  exact ⟨request, hrequest, (Except.ok.inj h).symm⟩

/-- The configuration file of a package that the command makes is a document of the
standard exactly if the values that it copies from the request have no infinite number
and none that is no number. -/
theorem isDocument_configFile_iff {defaults : Defaults} {now : Instant} {content : String}
    {p : Package} (hp : Command.package (.ok defaults) now (some content) = .ok p)
    {files : List File} (hfiles : p.files = .ok files) :
    ∃ request text, Command.readRequest content = .ok request ∧
      files.lookup "assets/app_config.json" = some text ∧
      (Json.Grammar.IsDocument text ↔
        ∀ value ∈ Config.copiedValues request, isFinite value = true) := by
  obtain ⟨request, hrequest, rfl⟩ := exists_of_command hp
  obtain ⟨_, _, _, _, _, _, _, -, -, -, -, -, -, -, rfl⟩ := exists_of_files_eq_ok hfiles
  exact ⟨request, _, hrequest, rfl, isDocument_configFile defaults now request⟩

theorem exists_files_of_command (defaults : Defaults) (now : Instant) (content : String)
    (h : ((Command.package (.ok defaults) now (some content)).toOption.any
      fun p => p.mainCode.isOk) = true) :
    ∃ p files, Command.package (.ok defaults) now (some content) = .ok p ∧
      p.files = .ok files := by
  cases hp : Command.package (.ok defaults) now (some content) with
  | error e =>
    rw [hp] at h
    cases h
  | ok p =>
    rw [hp] at h
    have hcode : p.mainCode.isOk = true := h
    rw [← isOk_files] at hcode
    obtain ⟨files, hfiles⟩ := (exists_eq_ok_iff _).2 hcode
    exact ⟨p, files, rfl, hfiles⟩

/-- A request whose numbers are finite, with a text that looks as if one was not. -/
def measuredRequest : String :=
  "\x7b\"template\": \x7b\"screens\": [" ++
    "\x7b\"metadata\": \x7b\"ratio\": -1e300, \"unit\": \"NaN\"\x7d\x7d]\x7d\x7d"

theorem isDocument_configFile_measuredRequest :
    ∃ p files text,
      Command.package (.ok standardDefaults) ⟨1700000000123456⟩ (some measuredRequest) = .ok p ∧
      p.files = .ok files ∧ files.lookup "assets/app_config.json" = some text ∧
      Json.Grammar.IsDocument text := by
  have hvalues : ((Command.readRequest measuredRequest).toOption.all fun request =>
      (Config.copiedValues request).all isFinite) = true := by
    decide +kernel
  obtain ⟨p, files, hp, hfiles⟩ :=
    exists_files_of_command standardDefaults ⟨1700000000123456⟩ measuredRequest (by decide +kernel)
  obtain ⟨request, text, hrequest, htext, hiff⟩ := isDocument_configFile_iff hp hfiles
  rw [hrequest] at hvalues
  exact ⟨p, files, text, hp, hfiles, htext, hiff.2 (List.all_eq_true.1 hvalues)⟩

/-- A request with a number that is no number. -/
def wordRequest : String :=
  "\x7b\"projectId\": NaN\x7d"

/-- The number is copied, and the configuration file of the package is no document of the
standard. -/
theorem not_isDocument_configFile_wordRequest :
    ∃ p files text,
      Command.package (.ok standardDefaults) ⟨1700000000123456⟩ (some wordRequest) = .ok p ∧
      p.files = .ok files ∧ files.lookup "assets/app_config.json" = some text ∧
      ¬Json.Grammar.IsDocument text := by
  have hvalues : ((Command.readRequest wordRequest).toOption.all fun request =>
      !(Config.copiedValues request).all isFinite) = true := by
    decide +kernel
  obtain ⟨p, files, hp, hfiles⟩ :=
    exists_files_of_command standardDefaults ⟨1700000000123456⟩ wordRequest (by decide +kernel)
  obtain ⟨request, hrequest, rfl⟩ := exists_of_command hp
  obtain ⟨_, _, _, _, _, _, _, -, -, -, -, -, -, -, rfl⟩ := exists_of_files_eq_ok hfiles
  rw [hrequest] at hvalues
  have hstray : (!(Config.copiedValues request).all isFinite) = true := hvalues
  rw [Bool.not_eq_true'] at hstray
  refine ⟨_, _, _, hp, hfiles, rfl, ?_⟩
  rw [isDocument_configFile, ← List.all_eq_true, hstray]
  exact Bool.false_ne_true

end Maquette.Package
