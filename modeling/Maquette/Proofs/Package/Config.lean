import Maquette.Proofs.Json.Display
import Maquette.Proofs.Json.Kept
import Maquette.Proofs.Package.Files

/-!
# The exported configuration

A package has its configuration as a file, and reading the file gives the exported
configuration back. All that is asked of the request is that it can be written at
all: the parts of a portable request are portable, and a configuration is made of
parts of its request, of displayed values and of the time.
-/

namespace Maquette

namespace Json

variable {v : Json} {fields : Fields}

theorem arePortableItems_iff {items : List Json} :
    arePortableItems items = true ↔ ∀ item ∈ items, item.isPortable = true := by
  induction items with
  | nil => simp [arePortableItems]
  | cons item items ih => simp [arePortableItems, ih]

theorem isPortable_get (h : arePortableFields fields = true) (name : String) :
    (fields.get name).isPortable = true := by
  induction fields with
  | nil => rfl
  | cons field fields ih =>
    obtain ⟨other, value⟩ := field
    simp only [arePortableFields, Bool.and_eq_true] at h
    rw [Fields.get_cons]
    split
    · exact h.2.1
    · exact ih h.2.2

theorem isPortable_fieldsOrNone (h : v.isPortable = true) :
    (object v.fieldsOrNone).isPortable = true := by
  cases v with
  | object fields => exact h
  | _ => rfl

theorem arePortableFields_of_object (h : (object fields).isPortable = true) :
    arePortableFields fields = true := by
  rw [isPortable, Bool.and_eq_true] at h
  exact h.2

/-- A field of a portable value is portable, also if there is none. -/
theorem isPortable_field (h : v.isPortable = true) (name : String) :
    (v.fieldsOrNone.get name).isPortable = true :=
  isPortable_get (arePortableFields_of_object (isPortable_fieldsOrNone h)) name

/-- An object is portable if its names are different and its fields are portable. -/
theorem isPortable_object (hnames : (fields.map Prod.fst).Nodup)
    (hfields : ∀ field ∈ fields, Text.isPortable field.1.toList = true ∧
      field.2.isPortable = true) : (object fields).isPortable = true := by
  rw [isPortable, decide_eq_true hnames, Bool.true_and]
  clear hnames
  induction fields with
  | nil => rfl
  | cons field fields ih =>
    obtain ⟨hname, hvalue⟩ := hfields field List.mem_cons_self
    have hrest := ih fun field hfield => hfields field (List.mem_cons_of_mem _ hfield)
    rw [arePortableFields, hname, hvalue, hrest]
    rfl

theorem isPortable_items (h : v.isPortable = true) :
    ∀ item ∈ v.items?.getD [], item.isPortable = true := by
  cases v with
  | array items => exact arePortableItems_iff.1 h
  | _ =>
    intro item hitem
    cases hitem

theorem isPortable_firstPresent {values : List Json} {default : Json}
    (hvalues : ∀ value ∈ values, value.isPortable = true) (hdefault : default.isPortable = true) :
    (firstPresent values default).isPortable = true := by
  unfold firstPresent firstPresent?
  cases hfound : values.find? isPresent with
  | none => exact hdefault
  | some value => exact hvalues value (List.mem_of_find?_eq_some hfound)

/-- The displayed text of the first given value is portable. -/
theorem isPortable_firstDisplayed {values : List Json} {default : Json}
    (hvalues : ∀ value ∈ values, value.isPortable = true) (hdefault : default.isPortable = true) :
    (string (firstPresent values default).display).isPortable = true :=
  isPortable_display (isPortable_firstPresent hvalues hdefault)

end Json

namespace Instant

theorem isBelowHalves_padded (width : Nat) (n : Int) :
    Text.isBelowHalves (padded width n).toList = true := by
  have hdigits := Text.isBelowHalves_of_all (all_isWordChar_decimalDigits n.natAbs)
  have hzeros (k : Nat) := Text.isBelowHalves_of_all (all_isWordChar_replicate k)
  rw [padded, String.toList_ofList, Text.isBelowHalves_append, hzeros, hdigits]
  rfl

theorem isPortable_isoText (t : Instant) : (Json.string t.isoText).isPortable = true := by
  refine Text.isPortable_of_isBelowHalves ?_
  have hfraction : Text.isBelowHalves (if t.calendar.microsecond = 0 then ""
      else "." ++ padded 6 t.calendar.microsecond).toList = true := by
    split
    · rfl
    · rw [String.toList_append, Text.isBelowHalves_append, isBelowHalves_padded]
      decide
  have hsigns : ∀ sign ∈ ["-", "T", ":", "+00:00"], Text.isBelowHalves sign.toList = true := by
    decide
  simp only [List.mem_cons, List.not_mem_nil, or_false, forall_eq_or_imp, forall_eq] at hsigns
  simp only [isoText, String.toList_append, Text.isBelowHalves_append, isBelowHalves_padded,
    hfraction, hsigns, Bool.and_true]

end Instant

namespace Screen

theorem isPortable_componentEntries {value : Json} (h : value.isPortable = true) :
    ∀ entry ∈ componentEntries value.fieldsOrNone, entry.isPortable = true := by
  have hcontent := Json.isPortable_field (Json.isPortable_field h "content") "droppedComponents"
  have hplain := Json.isPortable_items (Json.isPortable_field h "components")
  unfold componentEntries
  cases hitems : ((value.fieldsOrNone.get "content").fieldsOrNone.get "droppedComponents").items? with
  | none => exact hplain
  | some dropped =>
    have hdropped := Json.isPortable_items hcontent
    rw [hitems] at hdropped
    exact hdropped

/-- The components of a screen are exported as the objects that they were read from. -/
theorem map_toJson_components (value : Json) :
    (ofValue value).components.map Component.toJson =
      (componentEntries value.fieldsOrNone).filter fun entry => entry.fields?.isSome := by
  unfold ofValue ofFields
  dsimp only
  induction componentEntries value.fieldsOrNone with
  | nil => rfl
  | cons entry entries ih =>
    cases entry with
    | object fields =>
      simp only [List.filterMap_cons, Component.ofValue?, Json.fields?, Option.map_some,
        List.map_cons, ih, List.filter_cons, Option.isSome_some, if_true]
      rfl
    | _ =>
      simpa [List.filterMap_cons, Component.ofValue?, Json.fields?] using ih

theorem isPortable_propertyFields {value : Json} (h : value.isPortable = true) :
    (Json.object (propertyFields value.fieldsOrNone)).isPortable = true := by
  have hown := Json.isPortable_field h "screenProperties"
  have hcontent := Json.isPortable_field (Json.isPortable_field h "content") "screenProperties"
  unfold propertyFields
  cases hfields : value.fieldsOrNone.get "screenProperties" with
  | object fields =>
    rw [hfields] at hown
    exact hown
  | _ => exact Json.isPortable_fieldsOrNone hcontent

theorem isPortable_toJson {value : Json} (h : value.isPortable = true) :
    (ofValue value).toJson.isPortable = true := by
  have hname : (Json.string (ofValue value).name).isPortable = true := by
    refine Json.isPortable_firstDisplayed ?_ (by decide)
    simp only [List.mem_cons, List.not_mem_nil, or_false, forall_eq_or_imp, forall_eq]
    exact ⟨Json.isPortable_field h "name", Json.isPortable_field h "screenName"⟩
  have htitle : (Json.string (ofValue value).title).isPortable = true := by
    refine Json.isPortable_firstDisplayed ?_ (by decide)
    simp only [List.mem_cons, List.not_mem_nil, or_false, forall_eq_or_imp, forall_eq]
    exact ⟨Json.isPortable_field h "originalName", Json.isPortable_field h "name"⟩
  have hcomponents : (Json.array ((ofValue value).components.map Component.toJson)).isPortable =
      true := by
    rw [map_toJson_components, Json.isPortable, Json.arePortableItems_iff]
    intro entry hentry
    exact isPortable_componentEntries h entry (List.mem_filter.1 hentry).1
  have hproperties := isPortable_propertyFields h
  have hmetadata : (Json.object (ofValue value).metadata).isPortable = true :=
    Json.isPortable_fieldsOrNone (Json.isPortable_field h "metadata")
  refine Json.isPortable_object ?_ ?_
  · simp only [List.map_cons, List.map_nil]
    decide
  · simp only [List.mem_cons, List.not_mem_nil, or_false, forall_eq_or_imp, forall_eq]
    exact ⟨⟨by decide, hname⟩, ⟨by decide, htitle⟩, ⟨by decide, hcomponents⟩,
      ⟨by decide, hproperties⟩, ⟨by decide, hmetadata⟩⟩

end Screen

namespace Package.Config

/-- The configuration of a portable request is portable under portable defaults. -/
theorem isPortable_toJson {defaults : Defaults} {request : Json} (now : Instant)
    (hbundle : defaults.bundleId.isPortable = true)
    (hversion : defaults.appVersion.isPortable = true) (hrequest : request.isPortable = true) :
    (ofRequest defaults now request).toJson.isPortable = true := by
  have hdeployment := fun name =>
    Json.isPortable_field (Json.isPortable_field hrequest "deploymentInfo") name
  have htemplate := fun name =>
    Json.isPortable_field (Json.isPortable_field hrequest "template") name
  have htext {values : List Json} {default : Json}
      (hvalues : ∀ value ∈ values, value.isPortable = true) (hdefault : default.isPortable = true) :
      (Json.string (textOf values default)).isPortable = true :=
    Json.isPortable_firstDisplayed hvalues hdefault
  have hone {value default : Json} (hvalue : value.isPortable = true)
      (hdefault : default.isPortable = true) :
      (Json.string (textOf [value] default)).isPortable = true := by
    refine htext ?_ hdefault
    simpa using hvalue
  have hname : (Json.string (ofRequest defaults now request).appName).isPortable = true := by
    refine htext ?_ (by decide)
    simp only [List.mem_cons, List.not_mem_nil, or_false, forall_eq_or_imp, forall_eq]
    exact ⟨hdeployment "appName", htemplate "name"⟩
  have hscreens : (Json.array ((ofRequest defaults now request).screens.map
      Screen.toJson)).isPortable = true := by
    have hentries := Json.isPortable_items (htemplate "screens")
    rw [Json.isPortable, Json.arePortableItems_iff]
    intro exported hexported
    obtain ⟨screen, hscreen, rfl⟩ := List.mem_map.1 hexported
    obtain ⟨value, hvalue, rfl⟩ := List.mem_map.1 hscreen
    exact Screen.isPortable_toJson (hentries value hvalue)
  have hicon : (ofRequest defaults now request).appIcon.isPortable = true := by
    have hvalue := hdeployment "appIcon"
    unfold ofRequest
    dsimp only
    split
    · exact hvalue
    · rfl
  refine Json.isPortable_object ?_ ?_
  · simp only [List.map_cons, List.map_nil]
    decide
  · simp only [List.mem_cons, List.not_mem_nil, or_false, forall_eq_or_imp, forall_eq]
    exact ⟨⟨by decide, hname⟩, ⟨by decide, hone (hdeployment "bundleId") hbundle⟩,
      ⟨by decide, hscreens⟩, ⟨by decide, Json.isPortable_field hrequest "projectId"⟩,
      ⟨by decide, Json.isPortable_field hrequest "templateId"⟩,
      ⟨by decide, now.isPortable_isoText⟩, ⟨by decide, hicon⟩,
      ⟨by decide, hone (hdeployment "version") hversion⟩,
      ⟨by decide, hone (hdeployment "buildNumber") rfl⟩⟩

end Package.Config

namespace Package

/-- Reading the configuration file of a package gives the exported configuration, and
each screen in it has the objects of the request as its components. The file is in ASCII
whatever is in the texts. A request from outside may have any characters in them, as
`Json.isPortable_kept` says: nothing is asked for but finite numbers, and different names
in an object. Halves of pairs are read back as well, as long as they do not meet. -/
theorem read_configFile {defaults : Defaults} {request : Json} (now : Instant)
    (hbundle : defaults.bundleId.isPortable = true)
    (hversion : defaults.appVersion.isPortable = true) (hrequest : request.isPortable = true)
    {files : List File} (hfiles : (ofRequest defaults now request).files = .ok files) :
    ∃ text, files.lookup "assets/app_config.json" = some text ∧
      text.toList.all Text.isPlainChar = true ∧
      (∀ dialect, Json.read dialect text =
        some (ofRequest defaults now request).config.toJson) ∧
      ∃ entries, ((request.fieldsOrNone.get "template").fieldsOrNone.get "screens").items?.getD [] =
          entries ∧
        (ofRequest defaults now request).config.toJson.fieldsOrNone.get "screens" =
          .array (entries.map fun value => (Screen.ofValue value).toJson) ∧
        ∀ value ∈ entries, (Screen.ofValue value).toJson.fieldsOrNone.get "components" =
          .array ((Screen.componentEntries value.fieldsOrNone).filter
            fun entry => entry.fields?.isSome) := by
  obtain ⟨_, _, _, _, _, _, _, -, -, -, -, -, -, -, rfl⟩ := exists_of_files_eq_ok hfiles
  refine ⟨_, rfl, Json.all_isPlainChar_prettyAt _ 0, ?_, _, rfl, ?_, ?_⟩
  · intro dialect
    exact Json.read_pretty dialect (Config.isPortable_toJson now hbundle hversion hrequest)
  · exact congrArg Json.array List.map_map
  · intro value _
    rw [← Screen.map_toJson_components]
    rfl

def standardDefaults : Defaults where
  bundleId := .string Defaults.standardBundleId
  appVersion := .string Defaults.standardAppVersion
  sdkConstraint := .string Defaults.standardSdkConstraint
  outputDirectory := .string Defaults.packagesDirectory

/-- Characters that are kept with a sign in front of them, as they would be taken for
halves of a pair, and the sign itself. -/
def signedText : String :=
  String.ofList [Char.ofNat 0x10d800, Char.ofNat 0x10dc00, Text.literalSign]

/-- A payload with a component whose fields are not known, and texts that have to be
escaped. -/
def gaugePayload : Json :=
  .object [("template", .object [("screens", .array [
    .object [("components", .array [
      .object [("type", .string "Gauge"), ("é\n", .string "\"\\ \u0001 𝄞"),
        (signedText, .string signedText),
        ("limits", .array [.integer (-12345678901234567890), .number 2, .object []])],
      .null])]])])]

theorem read_configFile_gaugePayload :
    ∃ files text, (ofRequest standardDefaults ⟨1700000000123456⟩ gaugePayload.kept).files =
        .ok files ∧
      files.lookup "assets/app_config.json" = some text ∧
      Json.read .standard text =
        some (ofRequest standardDefaults ⟨1700000000123456⟩ gaugePayload.kept).config.toJson := by
  have hcode : (ofRequest standardDefaults ⟨1700000000123456⟩
      gaugePayload.kept).mainCode.isOk = true := by
    decide
  have hportable : gaugePayload.kept.isPortable = true := by
    rw [Json.isPortable_kept]
    decide +kernel
  rw [← isOk_files] at hcode
  obtain ⟨files, hfiles⟩ := (exists_eq_ok_iff _).2 hcode
  obtain ⟨text, htext, -, hread, -⟩ := read_configFile ⟨1700000000123456⟩ (by decide) (by decide)
    hportable hfiles
  exact ⟨files, text, hfiles, htext, hread .standard⟩

end Package

end Maquette
