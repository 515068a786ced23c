import Maquette.Package.Delivery
import Maquette.Proofs.FileTree.Reach
import Maquette.Proofs.Package.Config

/-!
# What a delivery leaves

A delivery places the files of a package, which are at eight different locations, up to
the first that the disk refuses. If the contents have encodings, a delivery ends in one
of three ways: all files are there, or the disk has refused one of them and those before
it are there, or the files could not be generated and nothing has happened at all.

The disk may refuse an operation for any reason of its own. If it has none, then the files
are there in the end exactly if the tree can become one that has them.
-/

namespace Maquette

/-- The files of a package do not get in the way of each other. -/
theorem Package.nodup_locations (directory : FilePath) :
    (fileNames.map fun name => (directory.child name).location).Nodup := by
  have hplain : ∀ name ∈ fileNames, ".." ∉ FilePath.namesOf name := by decide
  have hdistinct : (fileNames.map FilePath.namesOf).Nodup := by decide
  have hlocations : (fileNames.map fun name => (directory.child name).location) =
      (fileNames.map FilePath.namesOf).map (directory.location ++ ·) := by
    rw [List.map_map]
    exact List.map_congr_left fun name hname => FilePath.location_child (hplain name hname)
  rw [hlocations]
  exact List.Pairwise.map _ (fun a b hab heq => hab (List.append_cancel_left heq)) hdistinct

namespace Delivery

open Package (File)

variable {d : Delivery} {p : Package} {now : Instant} {output : Option String}
  {directory : FilePath} {files : List File} {refusals : List (Option FileFault)}

/-- The files that a delivery places: those in front of the first one without an encoding,
and that one, which stays empty. -/
def placed (files : List File) : List File :=
  (encodable files).1 ++
    match (encodable files).2 with
    | none => []
    | some (name, _) => [(name, "")]

/-- How a delivery ends that is not refused anything. -/
def accepted (directory : FilePath) (files : List File) : Result :=
  match (encodable files).2 with
  | none => .complete directory
  | some (_, fault) => .unencodable fault

/-- A delivery that is attempted: how it ends, and the tree and the errors after it. They
are as before if it is not even attempted. -/
def attempt (d : Delivery) (p : Package) (now : Instant) (output : Option String)
    (refusals : List (Option FileFault) := []) : Except DeliveryError Result × Delivery :=
  match d.package p now output refusals with
  | .ok (result, after) => (.ok result, after)
  | .error error => (.error error, d)

theorem encodable_cases (files : List File) :
    (encodable files).1 = files ∧ (encodable files).2 = none ∨
      ∃ name content more fault, files = (encodable files).1 ++ (name, content) :: more ∧
        (encodable files).2 = some (name, fault) ∧
        Text.encodingFault? content.toList = some fault := by
  induction files with
  | nil => exact .inl ⟨rfl, rfl⟩
  | cons file files ih =>
    obtain ⟨name, content⟩ := file
    rw [encodable]
    cases hfault : Text.encodingFault? content.toList with
    | some fault => exact .inr ⟨name, content, files, fault, rfl, rfl, hfault⟩
    | none =>
      rcases ih with ⟨hall, hnone⟩ | ⟨name', content', more, fault, hfiles, hsome, hfault'⟩
      · refine .inl ⟨?_, hnone⟩
        simp only [hall]
      · refine .inr ⟨name', content', more, fault, ?_, hsome, hfault'⟩
        rw [List.cons_append, ← hfiles]

theorem placed_of_eq_none (h : (encodable files).2 = none) : placed files = files := by
  rcases encodable_cases files with ⟨hall, -⟩ | ⟨_, _, _, _, -, hsome, -⟩
  · rw [placed, h, hall, List.append_nil]
  · rw [h] at hsome
    cases hsome

theorem map_fst_placed (files : List File) :
    (placed files).map Prod.fst <+: files.map Prod.fst := by
  rcases encodable_cases files with ⟨-, hnone⟩ | ⟨name, content, more, fault, hfiles, hsome, -⟩
  · have hplaced := placed_of_eq_none hnone
    exact hplaced.symm ▸ List.prefix_refl _
  · have hplaced : placed files = (encodable files).1 ++ [(name, "")] := by
      rw [placed, hsome]
    have hnames := congrArg (List.map Prod.fst) hfiles
    rw [hplaced, hnames, List.map_append, List.map_append, List.map_cons, List.map_cons]
    exact (List.prefix_append_right_inj _).2 ⟨more.map Prod.fst, rfl⟩

theorem nodup_placed (hfiles : p.files = .ok files) (directory : FilePath) :
    ((placed files).map fun file => (directory.child file.1).location).Nodup := by
  have hnames := Package.nodup_locations directory
  have hsub := ((map_fst_placed files).map fun name => (directory.child name).location).sublist
  rw [Package.map_fst_of_files hfiles, List.map_map] at hsub
  exact hnames.sublist hsub

/-- Writing is placing, and what is refused is one error more. -/
theorem write_eq (d : Delivery) (directory : FilePath) (files : List File)
    (refusals : List (Option FileFault)) :
    d.write directory files refusals =
      match Disk.placeAll directory ⟨d.tree, refusals⟩ (placed files) with
      | (after, some problem) => (.refused, ⟨after.tree, d.errors ++ [failure problem]⟩)
      | (after, none) => (accepted directory files, ⟨after.tree, d.errors⟩) := by
  rw [write]
  rcases encodable_cases files with ⟨hall, hnone⟩ | ⟨name, content, more, fault, -, hsome, -⟩
  · rw [placed_of_eq_none hnone, accepted, hall, hnone]
    cases Disk.placeAll directory ⟨d.tree, refusals⟩ files with
    | mk after outcome => cases outcome <;> rfl
  · have hplaced : placed files = (encodable files).1 ++ [(name, "")] := by
      rw [placed, hsome]
    rw [hplaced, Disk.placeAll_append, accepted, hsome]
    cases Disk.placeAll directory ⟨d.tree, refusals⟩ (encodable files).1 with
    | mk after outcome =>
      cases outcome with
      | some problem => rfl
      | none =>
        simp only [breakOff, Disk.placeAll]
        cases after.place (directory.child name) "" with
        | mk last outcome => cases outcome <;> rfl

theorem attempt_of_fault?_eq_some {fault : Text.EncodingFault}
    (hdirectory : p.directory now output = .ok directory) (hfiles : p.files = .ok files)
    (hfault : directory.fault? = some fault) :
    d.attempt p now output refusals = (.ok (.unencodable fault), d) := by
  have hpackage : d.package p now output refusals = .ok (.unencodable fault, d) := by
    rw [package, hdirectory, hfiles]
    simp only [bind, Except.bind, Except.mapError, hfault]
    rfl
  rw [attempt, hpackage]

theorem attempt_of_files_eq_ok (hdirectory : p.directory now output = .ok directory)
    (hfault : directory.fault? = none) (hnull : '\x00' ∉ directory.text.toList)
    (hfiles : p.files = .ok files) :
    d.attempt p now output refusals =
      (.ok (d.write directory files refusals).1, (d.write directory files refusals).2) := by
  have hpackage : d.package p now output refusals = .ok (d.write directory files refusals) := by
    rw [package, hdirectory, hfiles]
    simp only [bind, Except.bind, Except.mapError, hfault]
    exact if_neg hnull
  rw [attempt, hpackage]

theorem encodable_eq_self (h : ∀ file ∈ files, Text.encodingFault? file.2.toList = none) :
    encodable files = (files, none) := by
  induction files with
  | nil => rfl
  | cons file files ih =>
    obtain ⟨name, content⟩ := file
    have hcontent : Text.encodingFault? content.toList = none := h (name, content) List.mem_cons_self
    rw [encodable, ih fun other hother => h other (List.mem_cons_of_mem _ hother), hcontent]

/-- Contents with encodings are delivered completely, if the disk has no reasons of its own to
refuse anything, exactly if the tree can become one that has them: neither of the two trees
has a file where the other has a directory. -/
theorem attempt_eq_complete_iff (hdirectory : p.directory now output = .ok directory)
    (hfault : directory.fault? = none) (hnull : '\x00' ∉ directory.text.toList)
    (hfiles : p.files = .ok files)
    (hcontents : ∀ file ∈ files, Text.encodingFault? file.2.toList = none) :
    (d.attempt p now output).1 = .ok (.complete directory) ↔
      ∃ w : FileTree, d.tree.Admits w ∧ w.Admits d.tree ∧
        ∀ file ∈ files, w.contentOf? (directory.child file.1) = some file.2 := by
  have hencodable := encodable_eq_self hcontents
  have hnone : (encodable files).2 = none := by rw [hencodable]
  have hdistinct := nodup_placed hfiles directory
  rw [attempt_of_files_eq_ok hdirectory hfault hnull hfiles, write_eq]
  rw [placed_of_eq_none hnone] at hdistinct ⊢
  rw [← Disk.placeAll_eq_none_iff (d := ⟨d.tree, []⟩) rfl hdistinct]
  cases Disk.placeAll directory ⟨d.tree, []⟩ files with
  | mk after outcome =>
    cases outcome with
    | some problem => simp
    | none => simp [accepted, hnone]

/-- Some file is placed first, and it is the manifest. -/
theorem exists_placed_eq_cons (hfiles : p.files = .ok files) :
    ∃ content more, placed files = ("pubspec.yaml", content) :: more := by
  obtain ⟨manifest, _, _, _, _, _, _, -, -, -, -, -, -, -, rfl⟩ :=
    Package.exists_of_files_eq_ok hfiles
  rw [placed, encodable]
  cases Text.encodingFault? manifest.toList with
  | none => exact ⟨_, _, rfl⟩
  | some fault => exact ⟨_, _, rfl⟩

/-- The package of a request that asks for nothing. -/
def plain : Package :=
  .ofRequest Package.standardDefaults ⟨1700000000123456⟩ .null

theorem exists_files_plain : ∃ files, plain.files = .ok files := by
  have hcode : plain.mainCode.isOk = true := by decide
  rwa [← Package.isOk_files, ← exists_eq_ok_iff] at hcode

/-- A delivery to a tree with a file in the place of the directory `out`. -/
def blocked : Delivery := ⟨⟨[(["out"], .file "")]⟩, []⟩

theorem parent_manifest :
    ((FilePath.ofText "out").child "pubspec.yaml").parent = .ofText "out" := by
  decide

theorem place_blocked (content : String) :
    Disk.place ⟨blocked.tree, []⟩ ((FilePath.ofText "out").child "pubspec.yaml") content =
      (⟨blocked.tree, []⟩, some ⟨.alreadyExists, .ofText "out"⟩) := by
  have hmake : Disk.makeDirectory ⟨blocked.tree, []⟩ (.ofText "out") =
      (⟨blocked.tree, []⟩, some .alreadyExists) := rfl
  have hthere : blocked.tree.isDirectory (.ofText "out") = false := by decide
  rw [Disk.place, parent_manifest, Disk.ensureDirectory, hmake]
  simp only [Disk.unlessThere, hthere]
  rfl

theorem attempt_blocked (now : Instant) :
    (blocked.attempt plain now (some "out")).1 = .ok .refused := by
  obtain ⟨files, hfiles⟩ := exists_files_plain
  obtain ⟨content, more, hplaced⟩ := exists_placed_eq_cons hfiles
  have hfault : (FilePath.ofText "out").fault? = none := by decide
  have hnull : '\x00' ∉ (FilePath.ofText "out").text.toList := by decide
  rw [attempt_of_files_eq_ok rfl hfault hnull hfiles, write_eq, hplaced, Disk.placeAll,
    place_blocked]

end Delivery

end Maquette
