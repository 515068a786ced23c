import Maquette.Package.Basic
import Maquette.Proofs.Template.Render

/-!
# The files of a package

A package has eight files, whatever is packaged. The lists that a standard template goes
over are our own, so the standard templates never fail, and the files of a package are
there exactly if its home screen compiles.
-/

namespace Maquette

namespace Package

/-- The standard templates are filled with the values of every package. -/
theorem isOk_render_standard (p : Package) (escape : Bool) :
    ∀ template ∈ Template.standard.map Prod.snd,
      (Template.render escape template p.context).isOk = true := by
  have hdependencies : Template.valueOf? p.context "dependencies" =
      some (pairsToJson dependencies) := rfl
  have hdevelopment : Template.valueOf? p.context "dev_dependencies" =
      some (pairsToJson devDependencies) := rfl
  simp only [Template.standard, List.map_cons, List.map_nil, List.mem_cons, List.not_mem_nil,
    or_false, forall_eq_or_imp, forall_eq]
  refine ⟨?_, ?_, ?_, ?_, ?_, ?_⟩
  · rw [Template.pubspec, Template.isOk_render_text, Template.isOk_render_slot,
      Template.isOk_render_text, Template.isOk_render_slot, Template.isOk_render_text,
      Template.isOk_render_slot, Template.isOk_render_text, Template.isOk_render_slot,
      Template.isOk_render_text, Template.isOk_render_each hdependencies rfl,
      Template.isOk_render_text, Template.isOk_render_each hdevelopment rfl]
    exact Template.isOk_render_of_isFlat rfl
  · exact Template.isOk_render_of_isFlat (t := Template.embeddedData) rfl
  · exact Template.isOk_render_of_isFlat (t := Template.infoPlist) rfl
  · exact Template.isOk_render_of_isFlat (t := Template.androidManifest) rfl
  · exact Template.isOk_render_of_isFlat (t := Template.ignoreList) rfl
  · exact Template.isOk_render_of_isFlat (t := Template.readme) rfl

/-- Filling a standard template for a package never fails. -/
theorem isOk_filled (p : Package) :
    ∀ entry ∈ Template.standard, (p.filled entry.1).isOk = true := by
  have hfind : ∀ entry ∈ Template.standard,
      TemplateLibrary.empty.find entry.1 = .ok entry.2 := by
    simp only [Template.standard, List.mem_cons, List.not_mem_nil, or_false, forall_eq_or_imp,
      forall_eq]
    exact ⟨rfl, rfl, rfl, rfl, rfl, rfl⟩
  intro entry hentry
  obtain ⟨text, htext⟩ := (exists_eq_ok_iff _).2
    (isOk_render_standard p (Template.markupNames.contains entry.1) entry.2
      (List.mem_map_of_mem hentry))
  rw [filled, TemplateLibrary.render, hfind entry hentry]
  simp only [bind, Except.bind, htext]
  rfl

/-- What a file is filled with is its template, rendered with the values of the package. -/
theorem render_of_filled {p : Package} {name text : String} {template : Template}
    (hfind : TemplateLibrary.empty.find name = .ok template) (h : p.filled name = .ok text) :
    Template.render (Template.markupNames.contains name) template p.context = .ok text := by
  have h : (Template.render (Template.markupNames.contains name) template p.context).mapError
      PackageError.template = .ok text := by
    rwa [filled, TemplateLibrary.render, hfind] at h
  cases hrender : Template.render (Template.markupNames.contains name) template p.context with
  | error error =>
    rw [hrender] at h
    cases h
  | ok found =>
    rw [hrender] at h
    exact congrArg Except.ok (Except.ok.inj h)

/-- Whether there are files is decided by the code of the home screen, since the other
contents are there for any package. -/
theorem exists_files_eq (p : Package) :
    ∃ manifest data apple android ignored readme,
      p.filled "pubspec_yaml" = .ok manifest ∧ p.filled "screens_data_dart" = .ok data ∧
      p.filled "info_plist" = .ok apple ∧ p.filled "android_manifest" = .ok android ∧
      p.filled "gitignore" = .ok ignored ∧ p.filled "readme" = .ok readme ∧
      p.files = (p.mainCode.mapError .number).map fun code => [
        ("pubspec.yaml", manifest),
        ("lib/main.dart", code),
        ("lib/screens_data.dart", data),
        ("assets/app_config.json", p.configFile),
        ("ios/Runner/Info.plist", apple),
        ("android/app/src/main/AndroidManifest.xml", android),
        (".gitignore", ignored),
        ("README.md", readme)] := by
  have hfilled := p.isOk_filled
  simp only [Template.standard, List.mem_cons, List.not_mem_nil, or_false, forall_eq_or_imp,
    forall_eq, ← exists_eq_ok_iff] at hfilled
  obtain ⟨⟨manifest, hmanifest⟩, ⟨data, hdata⟩, ⟨apple, happle⟩, ⟨android, handroid⟩,
    ⟨ignored, hignored⟩, ⟨readme, hreadme⟩⟩ := hfilled
  refine ⟨manifest, data, apple, android, ignored, readme, hmanifest, hdata, happle, handroid,
    hignored, hreadme, ?_⟩
  unfold files
  simp only [bind, Except.bind, hmanifest, hdata, happle, handroid, hignored, hreadme]
  cases p.mainCode <;> rfl

/-- The files of a package, each with where its text comes from. -/
theorem exists_of_files_eq_ok {p : Package} {files : List File} (h : p.files = .ok files) :
    ∃ manifest code data apple android ignored readme,
      p.filled "pubspec_yaml" = .ok manifest ∧ p.mainCode = .ok code ∧
      p.filled "screens_data_dart" = .ok data ∧ p.filled "info_plist" = .ok apple ∧
      p.filled "android_manifest" = .ok android ∧ p.filled "gitignore" = .ok ignored ∧
      p.filled "readme" = .ok readme ∧
      files = [
        ("pubspec.yaml", manifest),
        ("lib/main.dart", code),
        ("lib/screens_data.dart", data),
        ("assets/app_config.json", p.configFile),
        ("ios/Runner/Info.plist", apple),
        ("android/app/src/main/AndroidManifest.xml", android),
        (".gitignore", ignored),
        ("README.md", readme)] := by
  obtain ⟨manifest, data, apple, android, ignored, readme, hmanifest, hdata, happle, handroid,
    hignored, hreadme, heq⟩ := p.exists_files_eq
  cases hcode : p.mainCode with
  | error error =>
    rw [heq, hcode] at h
    cases h
  | ok code =>
    rw [heq, hcode] at h
    exact ⟨manifest, code, data, apple, android, ignored, readme, hmanifest, rfl, hdata, happle,
      handroid, hignored, hreadme, (Except.ok.inj h).symm⟩

/-- Only the home screen can keep the files of a package from being generated. -/
theorem isOk_files (p : Package) : p.files.isOk = p.mainCode.isOk := by
  obtain ⟨_, _, _, _, _, _, -, -, -, -, -, -, heq⟩ := p.exists_files_eq
  rw [heq, isOk_map]
  cases p.mainCode <;> rfl

/-- The files of a package are missing for the reason for which its home screen does not
compile. -/
theorem mainCode_of_files_eq_error {p : Package} {e : PackageError} (h : p.files = .error e) :
    ∃ error, e = .number error ∧ p.mainCode = .error error := by
  obtain ⟨_, _, _, _, _, _, -, -, -, -, -, -, heq⟩ := p.exists_files_eq
  rw [heq] at h
  cases hcode : p.mainCode with
  | error error =>
    rw [hcode] at h
    exact ⟨error, (Except.error.inj h).symm, rfl⟩
  | ok code =>
    rw [hcode] at h
    cases h

/-- The paths of the files of a package, in order. -/
def fileNames : List String := [
  "pubspec.yaml",
  "lib/main.dart",
  "lib/screens_data.dart",
  "assets/app_config.json",
  "ios/Runner/Info.plist",
  "android/app/src/main/AndroidManifest.xml",
  ".gitignore",
  "README.md"]

theorem map_fst_of_files {p : Package} {files : List File} (h : p.files = .ok files) :
    files.map Prod.fst = fileNames := by
  obtain ⟨_, _, _, _, _, _, _, -, -, -, -, -, -, -, rfl⟩ := exists_of_files_eq_ok h
  rfl

theorem length_of_files {p : Package} {files : List File} (h : p.files = .ok files) :
    files.length = 8 := by
  rw [← List.length_map Prod.fst, map_fst_of_files h]
  rfl

end Package

end Maquette
