import Maquette.Proofs.Package.Config
import Maquette.Proofs.Screen.Exported

/-!
# The home screen of a package

A package has the code that its first screen is compiled to on its own, under the name
that the request gives the app. On the way to the package the name is displayed as a
text first, and a missing one replaced by the default; the name that the code shows is
the same. Nothing else in the request has a part in that code.
-/

namespace Maquette

namespace Document

/-- The code of an app bar shows the name of the app only if it has no title of its own. -/
theorem display_title_eq (title appName : Json) :
    (Json.firstPresent [title, appName] (.string defaultAppName)).display =
      if title.isPresent then title.display else displayName appName := by
  cases h : title.isPresent <;> simp [displayName, Json.firstPresent, Json.firstPresent?, h]

/-- A document depends on the name of its app only as far as it is shown. -/
theorem ofScreen_congr_displayName {appName appName' : Json}
    (h : displayName appName = displayName appName') (screen : Screen) :
    ofScreen appName screen = ofScreen appName' screen := by
  have hheader (c : Component) : Header.ofComponent appName c = Header.ofComponent appName' c := by
    unfold Header.ofComponent
    simp only [display_title_eq, h]
  have hbar (a : Arrangement) : a.header? appName = a.header? appName' := by
    unfold Arrangement.header?
    simp only [hheader]
  unfold ofScreen welcome welcomeCode screenCode appBody
  simp only [hbar, h]

end Document

namespace Package

/-- The name that a request gives its app, of any type. -/
def givenName (request : Json) : Json :=
  let fields := request.fieldsOrNone
  Json.firstPresent [(fields.get "deploymentInfo").fieldsOrNone.get "appName",
    (fields.get "template").fieldsOrNone.get "name"] .null

/-- The screens that a request comes with, as they were saved. -/
def savedScreens (request : Json) : List Json :=
  ((request.fieldsOrNone.get "template").fieldsOrNone.get "screens").items?.getD []

/-- The value is the first screen of a request, or has no components if the request has
no screens. -/
def IsHome (request home : Json) : Prop :=
  match savedScreens request with
  | first :: _ => home = first
  | [] => (Screen.ofValue home).components = []

/-- A name that is not given is shown as the default, like the default itself. -/
theorem displayName_display_firstPresent (values : List Json) :
    Document.displayName (.string (Json.firstPresent values (.string defaultAppName)).display) =
      Document.displayName (Json.firstPresent values .null) := by
  unfold Json.firstPresent
  cases hfound : Json.firstPresent? values with
  | none => rfl
  | some value =>
    have hpresent : value.isPresent = true := List.find?_some hfound
    have hname : value.display ≠ "" := Json.display_ne_empty hpresent
    have hgiven : Json.firstPresent? [value] = some value := List.find?_cons_of_pos hpresent
    rw [Option.getD_some, Option.getD_some, Document.displayName, Json.firstPresent_string hname,
      Json.display_string, Document.displayName, Json.firstPresent, hgiven, Option.getD_some]

theorem displayName_appName (defaults : Defaults) (now : Instant) (request : Json) :
    Document.displayName (.string (ofRequest defaults now request).config.appName) =
      Document.displayName (givenName request) :=
  displayName_display_firstPresent _

theorem homeScreen?_eq (defaults : Defaults) (now : Instant) (request : Json) :
    (ofRequest defaults now request).config.homeScreen? =
      (savedScreens request).head?.map Screen.ofValue :=
  List.head?_map

/-- The code of a package is that of its home screen under the given name. -/
theorem mainCode_eq (defaults : Defaults) (now : Instant) {request home : Json}
    (h : IsHome request home) :
    (ofRequest defaults now request).mainCode =
      (Document.ofValue (givenName request) home).map Document.code := by
  have hname := displayName_appName defaults now request
  unfold mainCode
  rw [homeScreen?_eq]
  unfold IsHome at h
  cases hscreens : savedScreens request with
  | nil =>
    rw [hscreens] at h
    have hempty : (Screen.ofValue home).components.isEmpty = true := List.isEmpty_iff.2 h
    rw [Document.ofValue, Document.ofScreen, if_pos hempty]
    change Except.ok (Document.welcomeCode _) = .ok (Document.welcomeCode _)
    unfold Document.welcomeCode
    rw [hname]
  | cons first rest =>
    rw [hscreens] at h
    obtain rfl := h
    exact congrArg (Except.map Document.code) (Document.ofScreen_congr_displayName hname _)

/-- The file of a package with its code is the document of the home screen. -/
theorem exists_document_of_files {defaults : Defaults} {now : Instant} {request home : Json}
    (h : IsHome request home) {files : List File}
    (hfiles : (ofRequest defaults now request).files = .ok files) :
    ∃ document, Document.ofValue (givenName request) home = .ok document ∧
      files.lookup "lib/main.dart" = some document.code := by
  obtain ⟨_, code, _, _, _, _, _, -, hcode, -, -, -, -, -, rfl⟩ := exists_of_files_eq_ok hfiles
  rw [mainCode_eq defaults now h] at hcode
  obtain ⟨document, hdocument, rfl⟩ := exists_of_map_eq_ok hcode
  exact ⟨document, hdocument, rfl⟩

/-- Packaging an app compiles its first screen under the name that is given to the app:
both give the same code, and the package has it as a file, or both fail in the same way.
The file is the same for any request with that screen and that name. -/
theorem main_dart_eq_compiled (defaults : Defaults) (now : Instant) {request home : Json}
    (h : IsHome request home) :
    (ofRequest defaults now request).mainCode =
      (Document.ofValue (givenName request) home).map Document.code ∧
    (∀ files, (ofRequest defaults now request).files = .ok files →
      ∃ document, Document.ofValue (givenName request) home = .ok document ∧
        files.lookup "lib/main.dart" = some document.code) ∧
    ∀ defaults' now' request' files files', IsHome request' home →
      givenName request' = givenName request →
      (ofRequest defaults now request).files = .ok files →
      (ofRequest defaults' now' request').files = .ok files' →
      files.lookup "lib/main.dart" = files'.lookup "lib/main.dart" := by
  refine ⟨mainCode_eq defaults now h, fun files hfiles => exists_document_of_files h hfiles, ?_⟩
  intro defaults' now' request' files files' h' hname hfiles hfiles'
  obtain ⟨document, hdocument, hcode⟩ := exists_document_of_files h hfiles
  obtain ⟨document', hdocument', hcode'⟩ := exists_document_of_files h' hfiles'
  rw [hname, hdocument] at hdocument'
  obtain rfl := Except.ok.inj hdocument'
  rw [hcode, hcode']

/-- A screen with an app bar that has no title of its own. -/
def barScreen : Json :=
  .object [("components", .array [.object [("type", .string "AppBar")]])]

/-- A request whose name for the app is a number, with another screen behind the first. -/
def numberedRequest : Json :=
  .object [
    ("template", .object [("name", .string "Shop"), ("screens", .array [barScreen, .null])]),
    ("deploymentInfo", .object [("appName", .integer 7), ("version", .string "2")])]

theorem main_dart_numberedRequest :
    ∃ files document, (ofRequest standardDefaults ⟨1700000000123456⟩ numberedRequest).files =
        .ok files ∧
      Document.ofValue (.integer 7) barScreen = .ok document ∧
      files.lookup "lib/main.dart" = some document.code := by
  have hcode : (ofRequest standardDefaults ⟨1700000000123456⟩ numberedRequest).mainCode.isOk =
      true := by decide +kernel
  rw [← isOk_files] at hcode
  obtain ⟨files, hfiles⟩ := (exists_eq_ok_iff _).2 hcode
  have hhome : IsHome numberedRequest barScreen := rfl
  have hname : givenName numberedRequest = .integer 7 := rfl
  obtain ⟨-, hfile, -⟩ := main_dart_eq_compiled standardDefaults ⟨1700000000123456⟩ hhome
  obtain ⟨document, hdocument, hlookup⟩ := hfile files hfiles
  exact ⟨files, document, hfiles, hname ▸ hdocument, hlookup⟩

end Package

end Maquette
