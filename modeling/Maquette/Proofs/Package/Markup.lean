import Maquette.Proofs.Package.Config
import Maquette.Proofs.Template.Markup

/-!
# The manifests for the platforms

Two files of a package are markup: the property list for Apple devices and the manifest
for Android. Each is the markup of its template with the name of the app and the bundle
identifier in it, in a form that no text can leave and that is decoded to the very text.
-/

namespace Maquette

namespace Template

theorem isDelimited_infoPlist : isDelimited infoPlist = true := by
  -- only the beginning of each text counts, so the texts are not put together
  simp only [infoPlist, isDelimited, -String.reduceAppend, String.toList_append,
    List.head?_append]
  decide +kernel

theorem isDelimited_androidManifest : isDelimited androidManifest = true := by
  simp only [androidManifest, isDelimited, -String.reduceAppend, String.toList_append,
    List.head?_append]
  decide +kernel

end Template

namespace Package

/-- The files that are markup carry the name of the app and the bundle identifier,
whatever texts these are. -/
theorem platform_files_carry {p : Package} {files : List File} (h : p.files = .ok files) :
    (∃ plist, files.lookup "ios/Runner/Info.plist" = some plist ∧
      Template.infoPlist.Carries plist [p.config.appName, p.config.bundleId, p.config.appName]) ∧
    ∃ manifest, files.lookup "android/app/src/main/AndroidManifest.xml" = some manifest ∧
      Template.androidManifest.Carries manifest [p.config.bundleId, p.config.appName] := by
  obtain ⟨_, _, _, plist, manifest, _, _, -, -, -, hplist, hmanifest, -, -, rfl⟩ :=
    exists_of_files_eq_ok h
  have hmarkup : Template.markupNames.contains "info_plist" = true ∧
      Template.markupNames.contains "android_manifest" = true := by decide
  have hplist : Template.render (Template.markupNames.contains "info_plist") Template.infoPlist
      p.context = .ok plist := render_of_filled rfl hplist
  have hmanifest : Template.render (Template.markupNames.contains "android_manifest")
      Template.androidManifest p.context = .ok manifest := render_of_filled rfl hmanifest
  rw [hmarkup.1] at hplist
  rw [hmarkup.2] at hmanifest
  have hname : Template.slotText true p.context "app_name" = Template.escaped p.config.appName :=
    rfl
  have hbundle : Template.slotText true p.context "bundle_id" =
      Template.escaped p.config.bundleId := rfl
  have hslots : Template.infoPlist.slotNames = ["app_name", "bundle_id", "app_name"] ∧
      Template.androidManifest.slotNames = ["bundle_id", "app_name"] := ⟨rfl, rfl⟩
  refine ⟨⟨plist, rfl, Template.carries_of_render Template.isDelimited_infoPlist hplist ?_⟩,
    manifest, rfl, Template.carries_of_render Template.isDelimited_androidManifest hmanifest ?_⟩
  · simp only [hslots.1, List.map_cons, List.map_nil, hname, hbundle]
  · simp only [hslots.2, List.map_cons, List.map_nil, hname, hbundle]

/-- A request whose texts look like markup, like entities and like a slot. -/
def taggedRequest : Json :=
  .object [("deploymentInfo", .object [
    ("appName", .string "\"Fish\" & <b>chips</b> &amp; \x7b\x7b version \x7d\x7d"),
    ("bundleId", .string "com.it's.&#x27;")])]

theorem platform_files_carry_taggedRequest :
    ∃ files plist manifest,
      (ofRequest standardDefaults ⟨1700000000123456⟩ taggedRequest).files = .ok files ∧
      files.lookup "ios/Runner/Info.plist" = some plist ∧
      Template.infoPlist.Carries plist ["\"Fish\" & <b>chips</b> &amp; \x7b\x7b version \x7d\x7d",
        "com.it's.&#x27;", "\"Fish\" & <b>chips</b> &amp; \x7b\x7b version \x7d\x7d"] ∧
      files.lookup "android/app/src/main/AndroidManifest.xml" = some manifest ∧
      Template.androidManifest.Carries manifest ["com.it's.&#x27;",
        "\"Fish\" & <b>chips</b> &amp; \x7b\x7b version \x7d\x7d"] := by
  have hcode :
      (ofRequest standardDefaults ⟨1700000000123456⟩ taggedRequest).mainCode.isOk = true := by
    decide
  rw [← isOk_files] at hcode
  obtain ⟨files, hfiles⟩ := (exists_eq_ok_iff _).2 hcode
  obtain ⟨⟨plist, hplist, hplistCarries⟩, manifest, hmanifest, hmanifestCarries⟩ :=
    platform_files_carry hfiles
  exact ⟨files, plist, manifest, hfiles, hplist, hplistCarries, hmanifest, hmanifestCarries⟩

end Package

end Maquette
