import Maquette.Proofs.Package.Config
import Maquette.Proofs.Template.Render
import Maquette.Proofs.Text.Pieces

/-!
# The lines of the manifest

The manifest of a package has three texts of a request in it: the name of the package,
the version of the app and the number of its build. The name has letters and digits only,
so it stays on its line. The other two are written as they are, and each line end in them
begins a line of its own. What follows is the same for all packages with the same
defaults.

So the manifests of two requests agree but for the lines of the name and of the version
exactly if their versions agree behind the first line.
-/

namespace Maquette

namespace Text

/-- The characters that end a line: line feeds do, and of the others some or all that are
line boundaries. -/
structure IsLineEnds (ends : Char → Bool) : Prop where
  newline : ends '\n' = true
  boundary : ∀ c, ends c = true → isLineBoundary c = true

variable {ends : Char → Bool}

theorem IsLineEnds.eq_false (hends : IsLineEnds ends) {s : List Char}
    (hs : s.all (!isLineBoundary ·) = true) : ∀ c ∈ s, ends c = false := by
  intro c hc
  have hboundary : isLineBoundary c = false := by simpa using List.all_eq_true.1 hs c hc
  exact Bool.eq_false_iff.2 fun h => Bool.eq_false_iff.1 hboundary (hends.boundary c h)

end Text

/-- Two lists of the same length are equal but for these places. -/
def AgreeApart {α : Type} (places : List Nat) (l l' : List α) : Prop :=
  l.length = l'.length ∧ ∀ i, i ∉ places → l[i]? = l'[i]?

/-- Lists with one common part behind the first and the third place and one in between. -/
theorem agreeApart_iff {α : Type} {a a' b c c' : α} {l l' rest : List α} :
    AgreeApart [0, 2] (a :: b :: c :: (l ++ rest)) (a' :: b :: c' :: (l' ++ rest)) ↔ l = l' := by
  constructor
  · rintro ⟨-, h⟩
    have hrest : l ++ rest = l' ++ rest := List.ext_getElem? fun i => by
      simpa using h (i + 3) (by simp)
    exact List.append_cancel_right hrest
  · rintro rfl
    refine ⟨rfl, fun i hi => ?_⟩
    match i with
    | 0 => simp at hi
    | 1 => rfl
    | 2 => simp at hi
    | i + 3 => rfl

namespace Package

/-- The version of an app with the number of its build, as it stands in the manifest. -/
def Config.fullVersion (c : Config) : List Char :=
  c.version.toList ++ '+' :: c.buildNumber.toList

def manifestDescription : List Char :=
  "description: A Flutter app generated by App Creator".toList

/-- The manifest up to the version. -/
def manifestHead (p : Package) : List Char :=
  "name: ".toList ++ (p.name.toList ++ '\n' :: (manifestDescription ++ '\n' ::
    ("version: ".toList ++ p.config.fullVersion)))

/-- The template of the manifest behind the version. -/
def manifestRest : Template := Template.pubspec.drop 6

theorem exists_of_manifest {p : Package} {manifest : String}
    (h : p.filled "pubspec_yaml" = .ok manifest) :
    ∃ rest, Template.render false manifestRest p.context = .ok rest ∧
      manifest.toList = p.manifestHead ++ rest.toList := by
  have hrender : Template.render false Template.pubspec p.context = .ok manifest :=
    render_of_filled rfl h
  rw [Template.pubspec] at hrender
  obtain ⟨_, hname, rfl⟩ := Template.exists_of_render_text hrender
  obtain ⟨_, hdescription, rfl⟩ := Template.exists_of_render_slot hname
  obtain ⟨_, hversion, rfl⟩ := Template.exists_of_render_text hdescription
  obtain ⟨_, hplus, rfl⟩ := Template.exists_of_render_slot hversion
  obtain ⟨_, hbuild, rfl⟩ := Template.exists_of_render_text hplus
  obtain ⟨rest, hrest, rfl⟩ := Template.exists_of_render_slot hbuild
  have hslots : Template.slotText false p.context "package_name" = p.name ∧
      Template.slotText false p.context "version" = p.config.version ∧
      Template.slotText false p.context "build_number" = p.config.buildNumber :=
    ⟨rfl, rfl, rfl⟩
  have hdescription : "description: A Flutter app generated by App Creator\n".toList =
      manifestDescription ++ ['\n'] := by decide
  have hmarks : "\n".toList = ['\n'] ∧ "+".toList = ['+'] := by decide
  refine ⟨rest, hrest, ?_⟩
  unfold manifestHead
  simp only [-String.reduceAppend, String.toList_append, hslots.1, hslots.2.1, hslots.2.2,
    hdescription, hmarks.1, hmarks.2, Config.fullVersion, List.append_assoc,
    List.cons_append, List.nil_append]

/-- Behind the version, the manifests of packages with the same defaults are the same. -/
theorem exists_manifest_eq {p p' : Package} (hdefaults : p.defaults = p'.defaults)
    {manifest manifest' : String} (h : p.filled "pubspec_yaml" = .ok manifest)
    (h' : p'.filled "pubspec_yaml" = .ok manifest') :
    ∃ more, manifest.toList = p.manifestHead ++ '\n' :: more ∧
      manifest'.toList = p'.manifestHead ++ '\n' :: more := by
  obtain ⟨rest, hrest, hmanifest⟩ := exists_of_manifest h
  obtain ⟨rest', hrest', hmanifest'⟩ := exists_of_manifest h'
  have hnames : Template.outerNames manifestRest =
      ["sdk_constraint", "dependencies", "dev_dependencies"] := by
    simp [manifestRest, Template.pubspec, Template.outerNames]
  have hvalues : ∀ name ∈ Template.outerNames manifestRest,
      Template.valueOf? p.context name = Template.valueOf? p'.context name := by
    have hconstraint (q : Package) :
        Template.valueOf? q.context "sdk_constraint" = some q.defaults.sdkConstraint := rfl
    have hlists (q : Package) :
        Template.valueOf? q.context "dependencies" = some (pairsToJson dependencies) ∧
        Template.valueOf? q.context "dev_dependencies" = some (pairsToJson devDependencies) :=
      ⟨rfl, rfl⟩
    simp only [hnames, List.forall_mem_cons, hconstraint, hdefaults, (hlists _).1, (hlists _).2,
      true_and]
    exact fun _ hname => absurd hname List.not_mem_nil
  rw [Template.render_congr manifestRest hvalues, hrest'] at hrest
  obtain rfl := Except.ok.inj hrest
  obtain ⟨more, hmore⟩ : ∃ more, rest'.toList = '\n' :: more := by
    obtain ⟨_, -, rfl⟩ := Template.exists_of_render_text hrest'
    simp only [-String.reduceAppend, String.toList_append]
    exact ⟨_, rfl⟩
  rw [hmore] at hmanifest hmanifest'
  exact ⟨more, hmanifest, hmanifest'⟩

theorem isLineBoundary_of_isNameChar {c : Char} (h : isNameChar c = true) :
    Text.isLineBoundary c = false := by
  have hletter : (97 ≤ c.toNat ∧ c.toNat ≤ 122) ∨ (48 ≤ c.toNat ∧ c.toNat ≤ 57) := by
    simpa [isNameChar, Char.le_def, UInt32.le_iff_toNat_le] using h
  rw [Bool.eq_false_iff]
  intro hline
  simp [Text.isLineBoundary, Text.lineBoundaries, CharSet.contains] at hline
  omega

/-- The name of a package is on one line. -/
theorem all_name (p : Package) : p.name.toList.all (!Text.isLineBoundary ·) = true := by
  rw [name, nameOf, String.toList_ofList, List.all_eq_true]
  intro c hc
  rcases isNameChar_or_underscore_of_mem_nameChars hc with hname | rfl
  · rw [isLineBoundary_of_isNameChar hname]
    rfl
  · decide

variable {ends : Char → Bool}

theorem pieces_manifestHead (hends : Text.IsLineEnds ends) (p : Package) {first : List Char}
    {others : List (List Char)} (h : Text.pieces ends p.config.fullVersion = first :: others) :
    Text.pieces ends p.manifestHead =
      ("name: ".toList ++ p.name.toList) :: manifestDescription ::
        ("version: ".toList ++ first) :: others := by
  have hname : Text.pieces ends ("name: ".toList ++ p.name.toList) =
      ["name: ".toList ++ p.name.toList] := by
    refine Text.pieces_of_all (hends.eq_false ?_)
    rw [List.all_append, all_name]
    decide
  have hdescription : Text.pieces ends manifestDescription = [manifestDescription] :=
    Text.pieces_of_all (hends.eq_false (by decide))
  have hversion : Text.pieces ends ("version: ".toList ++ p.config.fullVersion) =
      ("version: ".toList ++ first) :: others :=
    Text.pieces_append_of_all (hends.eq_false (by decide)) h
  unfold manifestHead
  rw [← List.append_assoc, Text.pieces_append_cons hends.newline, hname,
    Text.pieces_append_cons hends.newline, hdescription, hversion]
  rfl

theorem pieces_manifest (hends : Text.IsLineEnds ends) {p : Package} {manifest : String}
    {more first : List Char} {others : List (List Char)}
    (hmanifest : manifest.toList = p.manifestHead ++ '\n' :: more)
    (hversion : Text.pieces ends p.config.fullVersion = first :: others) :
    Text.pieces ends manifest.toList = ("name: ".toList ++ p.name.toList) ::
      manifestDescription :: ("version: ".toList ++ first) ::
        (others ++ Text.pieces ends more) := by
  rw [hmanifest, Text.pieces_append_cons hends.newline, pieces_manifestHead hends p hversion]
  rfl

theorem agreeApart_manifest_iff (hends : Text.IsLineEnds ends) {p p' : Package}
    (hdefaults : p.defaults = p'.defaults) {manifest manifest' : String}
    (h : p.filled "pubspec_yaml" = .ok manifest) (h' : p'.filled "pubspec_yaml" = .ok manifest') :
    AgreeApart [0, 2] (Text.pieces ends manifest.toList) (Text.pieces ends manifest'.toList) ↔
      (Text.pieces ends p.config.fullVersion).tail =
        (Text.pieces ends p'.config.fullVersion).tail := by
  obtain ⟨more, htext, htext'⟩ := exists_manifest_eq hdefaults h h'
  obtain ⟨first, others, hversion⟩ := Text.exists_pieces_eq_cons ends p.config.fullVersion
  obtain ⟨first', others', hversion'⟩ := Text.exists_pieces_eq_cons ends p'.config.fullVersion
  rw [pieces_manifest hends htext hversion, pieces_manifest hends htext' hversion', hversion,
    hversion']
  exact agreeApart_iff

/-- The manifests of two packages with the same defaults, line by line: they agree but for
the lines of the name and of the version exactly if the versions agree behind their first
lines. Beside a version on one line, this means that the other one is on one line, too.
The name of the app never counts. -/
theorem manifest_lines_agree_iff {p p' : Package} (hdefaults : p.defaults = p'.defaults)
    {files files' : List File} (h : p.files = .ok files) (h' : p'.files = .ok files')
    (hends : Text.IsLineEnds ends) :
    ∃ manifest manifest', files.lookup "pubspec.yaml" = some manifest ∧
      files'.lookup "pubspec.yaml" = some manifest' ∧
      (∃ name version, (Text.pieces ends manifest.toList)[0]? = some ("name: ".toList ++ name) ∧
        (Text.pieces ends manifest.toList)[2]? = some ("version: ".toList ++ version)) ∧
      (AgreeApart [0, 2] (Text.pieces ends manifest.toList) (Text.pieces ends manifest'.toList) ↔
        (Text.pieces ends p.config.fullVersion).tail =
          (Text.pieces ends p'.config.fullVersion).tail) ∧
      ((∀ c ∈ p'.config.fullVersion, ends c = false) →
        (AgreeApart [0, 2] (Text.pieces ends manifest.toList)
            (Text.pieces ends manifest'.toList) ↔
          ∀ c ∈ p.config.fullVersion, ends c = false)) := by
  obtain ⟨manifest, _, _, _, _, _, _, hmanifest, -, -, -, -, -, -, rfl⟩ := exists_of_files_eq_ok h
  obtain ⟨manifest', _, _, _, _, _, _, hmanifest', -, -, -, -, -, -, rfl⟩ :=
    exists_of_files_eq_ok h'
  have hagree := agreeApart_manifest_iff hends hdefaults hmanifest hmanifest'
  obtain ⟨more, htext, -⟩ := exists_manifest_eq hdefaults hmanifest hmanifest'
  obtain ⟨first, others, hversion⟩ := Text.exists_pieces_eq_cons ends p.config.fullVersion
  have hlines := pieces_manifest hends htext hversion
  refine ⟨manifest, manifest', rfl, rfl, ⟨p.name.toList, first, ?_, ?_⟩, hagree, fun hline => ?_⟩
  · rw [hlines]
    rfl
  · rw [hlines]
    rfl
  · rw [hagree, Text.tail_pieces_eq_nil_iff.2 hline, Text.tail_pieces_eq_nil_iff]

/-- The package of a request with nothing in it. -/
def emptyPackage : Package :=
  .ofRequest standardDefaults ⟨1700000000123456⟩ .null

/-- A package whose app has a name with line ends of several kinds. -/
def brokenName : Package :=
  .ofRequest standardDefaults ⟨1700000000123456⟩ (.object [("deploymentInfo", .object [
    ("appName", .string "Fish\nassets: \u2028 \r\n")])])

/-- A package whose app has a version that goes on with a key of its own. -/
def brokenVersion : Package :=
  .ofRequest standardDefaults ⟨1700000000123456⟩ (.object [("deploymentInfo", .object [
    ("version", .string "1.0.0\nassets: [] #")])])

theorem defaults_broken : brokenName.defaults = emptyPackage.defaults ∧
    brokenVersion.defaults = emptyPackage.defaults := ⟨rfl, rfl⟩

theorem exists_files_broken :
    ∀ p ∈ [emptyPackage, brokenName, brokenVersion], ∃ files, p.files = .ok files := by
  simp only [exists_eq_ok_iff, isOk_files]
  decide

theorem manifest_lines_agree_brokenName :
    ∃ files files' manifest manifest',
      brokenName.files = .ok files ∧ emptyPackage.files = .ok files' ∧
      files.lookup "pubspec.yaml" = some manifest ∧
      files'.lookup "pubspec.yaml" = some manifest' ∧
      AgreeApart [0, 2] (Text.pieces Text.isLineBoundary manifest.toList)
        (Text.pieces Text.isLineBoundary manifest'.toList) := by
  obtain ⟨files, hfiles⟩ := exists_files_broken brokenName (by simp)
  obtain ⟨files', hfiles'⟩ := exists_files_broken emptyPackage (by simp)
  have hends : Text.IsLineEnds Text.isLineBoundary := ⟨by decide, fun _ h => h⟩
  obtain ⟨manifest, manifest', hmanifest, hmanifest', -, -, hagree⟩ :=
    manifest_lines_agree_iff defaults_broken.1 hfiles hfiles' hends
  exact ⟨files, files', manifest, manifest', hfiles, hfiles', hmanifest, hmanifest',
    (hagree (hends.eq_false (by decide +kernel))).2 (hends.eq_false (by decide +kernel))⟩

/-- A version adds a line to the manifest that is a key of its own. -/
theorem not_agree_brokenVersion :
    ∃ files files' manifest manifest',
      brokenVersion.files = .ok files ∧ emptyPackage.files = .ok files' ∧
      files.lookup "pubspec.yaml" = some manifest ∧
      files'.lookup "pubspec.yaml" = some manifest' ∧
      (Text.pieces (· == '\n') manifest.toList)[3]? = some "assets: [] #+1700000000".toList ∧
      ¬AgreeApart [0, 2] (Text.pieces (· == '\n') manifest.toList)
        (Text.pieces (· == '\n') manifest'.toList) := by
  obtain ⟨_, hfiles⟩ := exists_files_broken brokenVersion (by simp)
  obtain ⟨_, hfiles'⟩ := exists_files_broken emptyPackage (by simp)
  obtain ⟨manifest, _, _, _, _, _, _, hmanifest, -, -, -, -, -, -, rfl⟩ :=
    exists_of_files_eq_ok hfiles
  obtain ⟨manifest', _, _, _, _, _, _, hmanifest', -, -, -, -, -, -, rfl⟩ :=
    exists_of_files_eq_ok hfiles'
  have hends : Text.IsLineEnds (· == '\n') :=
    ⟨rfl, fun c hc => by rw [beq_iff_eq.1 hc]; decide⟩
  have hversion : Text.pieces (· == '\n') brokenVersion.config.fullVersion =
      ["1.0.0".toList, "assets: [] #+1700000000".toList] := by decide +kernel
  obtain ⟨more, htext, -⟩ := exists_manifest_eq defaults_broken.2 hmanifest hmanifest'
  refine ⟨_, _, manifest, manifest', hfiles, hfiles', rfl, rfl, ?_, ?_⟩
  · rw [pieces_manifest hends htext hversion]
    rfl
  · rw [agreeApart_manifest_iff hends defaults_broken.2 hmanifest hmanifest', hversion]
    decide +kernel

end Package

end Maquette
