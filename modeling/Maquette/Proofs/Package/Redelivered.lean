import Maquette.Proofs.Json.Encodable
import Maquette.Proofs.Package.Delivered

/-!
# Repeated deliveries

A package whose files can be generated is delivered to the same directory again and
again. The first delivery decides how all of them end: it leaves a tree in which what it
wrote is written again and what was refused to it is refused again. So the files stay
those that it has left, and each refused delivery adds one error.

A delivery also ends at a content without an encoding. Then it is neither complete nor
is there an error, and the file has been left empty.
-/

namespace Maquette

/-- The manifest has the version as it is, behind a blank. -/
theorem Package.infix_manifest_version {p : Package} {manifest : String}
    (h : p.filled "pubspec_yaml" = .ok manifest) :
    ' ' :: p.config.version.toList <:+: manifest.toList := by
  have hversion : Template.slotText false p.context "version" = p.config.version := rfl
  have hrender : Template.render false Template.pubspec p.context = .ok manifest :=
    render_of_filled rfl h
  rw [Template.pubspec] at hrender
  obtain ⟨afterTitle, hname, rfl⟩ := Template.exists_of_render_text hrender
  obtain ⟨afterName, htext, rfl⟩ := Template.exists_of_render_slot hname
  obtain ⟨afterText, hslot, rfl⟩ := Template.exists_of_render_text htext
  obtain ⟨afterVersion, -, rfl⟩ := Template.exists_of_render_slot hslot
  have hblank : "version: ".toList = "version:".toList ++ [' '] := by decide
  refine ⟨("name: " ++ Template.slotText false p.context "package_name" ++ ("\n" ++
    "description: A Flutter app generated by App Creator\n" ++ "version:")).toList,
    afterVersion.toList, ?_⟩
  simp only [String.toList_append, hversion, hblank, List.append_assoc, List.cons_append,
    List.nil_append]

namespace Delivery

open Package (File)

variable {d d' : Delivery} {p : Package} {now : Instant} {output : Option String}
  {directory : FilePath} {files : List File}

/-- Deliveries of a package that are attempted at points in time: how they end, and the
tree and the errors after the last. -/
def attempts (d : Delivery) (p : Package) (output : Option String) :
    List Instant → List (Except DeliveryError Result) × Delivery
  | [] => ([], d)
  | now :: later =>
    let (result, after) := d.attempt p now output
    let (results, last) := after.attempts p output later
    (result :: results, last)

theorem attempts_cons (d : Delivery) (p : Package) (output : Option String) (now : Instant)
    (later : List Instant) :
    d.attempts p output (now :: later) =
      ((d.attempt p now output).1 :: ((d.attempt p now output).2.attempts p output later).1,
        ((d.attempt p now output).2.attempts p output later).2) := rfl

/-- How many errors a delivery adds that ends like this. -/
def Result.errorCount : Result → Nat
  | complete _ => 0
  | refused => 1
  | unencodable _ => 0

theorem accepted_eq (directory : FilePath) (files : List File) :
    accepted directory files = .complete directory ∨
      ∃ file ∈ files, ∃ fault, Text.encodingFault? file.2.toList = some fault ∧
        accepted directory files = .unencodable fault := by
  rcases encodable_cases files with
    ⟨-, hnone⟩ | ⟨name, content, more, fault, hfiles, hsome, hfault⟩
  · exact .inl (by rw [accepted, hnone])
  · refine .inr ⟨(name, content), ?_, fault, hfault, by rw [accepted, hsome]⟩
    rw [hfiles]
    exact List.mem_append_right _ List.mem_cons_self

theorem errorCount_accepted (directory : FilePath) (files : List File) :
    (accepted directory files).errorCount = 0 := by
  rcases accepted_eq directory files with h | ⟨_, _, _, _, h⟩ <;> rw [h] <;> rfl

/-- What a delivery is refused is one error more, and nothing else is. -/
theorem exists_errors_write (d : Delivery) (directory : FilePath) (files : List File) :
    ∃ messages, (d.write directory files).2.errors = d.errors ++ messages ∧
      messages.length = (d.write directory files).1.errorCount := by
  rw [write_eq]
  split
  · exact ⟨[_], rfl, rfl⟩
  · exact ⟨[], (List.append_nil _).symm, (errorCount_accepted directory files).symm⟩

theorem write_cases (d : Delivery) (directory : FilePath) (files : List File) :
    (d.write directory files).1 = .complete directory ∨
      (d.write directory files).1 = .refused ∨
      ∃ file ∈ files, ∃ fault, Text.encodingFault? file.2.toList = some fault ∧
        (d.write directory files).1 = .unencodable fault := by
  rw [write_eq]
  split
  · exact .inr (.inl rfl)
  · rcases accepted_eq directory files with h | h
    · exact .inl h
    · exact .inr (.inr h)

/-- A delivery to a tree that an earlier one has left ends like that one. -/
theorem write_again (hfiles : p.files = .ok files)
    (hgrows : (d.write directory files).2.tree.GrowsTo d'.tree) :
    (d'.write directory files).1 = (d.write directory files).1 ∧
      d'.tree.GrowsTo (d'.write directory files).2.tree := by
  rw [write_eq] at hgrows
  rw [write_eq d', write_eq d]
  cases hplace : Disk.placeAll directory ⟨d.tree, []⟩ (placed files) with
  | mk after outcome =>
    rw [hplace] at hgrows
    have htree : after.tree.GrowsTo d'.tree := by cases outcome <;> exact hgrows
    obtain ⟨again, other, hagain, hsome, hmore⟩ :=
      Disk.exists_placeAll_again (f := ⟨d'.tree, []⟩) rfl rfl (nodup_placed hfiles directory)
        hplace htree
    rw [hagain]
    cases outcome with
    | some problem =>
      obtain ⟨problem', rfl⟩ := Option.isSome_iff_exists.1 hsome
      exact ⟨rfl, hmore.tree⟩
    | none =>
      obtain rfl := Option.isNone_iff_eq_none.1 (Option.isSome_eq_false_iff.1 hsome)
      exact ⟨rfl, hmore.tree⟩

/-- Any number of deliveries to a tree that an earlier one has left end like that one. -/
theorem attempts_after (hfiles : p.files = .ok files)
    (hdirectory : ∀ now, p.directory now output = .ok directory)
    (hfault : directory.fault? = none) (hnull : '\x00' ∉ directory.text.toList)
    (times : List Instant)
    (hgrows : (d.write directory files).2.tree.GrowsTo d'.tree) :
    (d'.attempts p output times).1 =
        List.replicate times.length (.ok (d.write directory files).1) ∧
      d'.tree.GrowsTo (d'.attempts p output times).2.tree ∧
      ∃ messages, (d'.attempts p output times).2.errors = d'.errors ++ messages ∧
        messages.length = times.length * (d.write directory files).1.errorCount := by
  induction times generalizing d' with
  | nil => exact ⟨rfl, FileTree.growsTo_refl _, [], (List.append_nil _).symm, by simp⟩
  | cons now later ih =>
    obtain ⟨hresult, hmore⟩ := write_again hfiles hgrows
    obtain ⟨messages, hmessages, hcount⟩ := exists_errors_write d' directory files
    obtain ⟨hresults, htree, further, hfurther, hlength⟩ := ih (hgrows.trans hmore)
    rw [attempts_cons, attempt_of_files_eq_ok (hdirectory now) hfault hnull hfiles]
    refine ⟨?_, hmore.trans htree, messages ++ further, ?_, ?_⟩
    · rw [List.length_cons, List.replicate_succ, hresults, hresult]
    · rw [hfurther, hmessages, List.append_assoc]
    · rw [List.length_append, hcount, hlength, hresult, List.length_cons, Nat.succ_mul,
        Nat.add_comm]

/-- A directory whose path has no encoding is never made. -/
theorem attempts_of_fault?_eq_some {fault : Text.EncodingFault} (hfiles : p.files = .ok files)
    (hdirectory : ∀ now, p.directory now output = .ok directory)
    (hfault : directory.fault? = some fault) (times : List Instant) :
    d.attempts p output times = (List.replicate times.length (.ok (.unencodable fault)), d) := by
  induction times with
  | nil => rfl
  | cons now later ih =>
    rw [attempts_cons, attempt_of_fault?_eq_some (hdirectory now) hfiles hfault, ih]
    rfl

/-- A package is delivered to a given directory any number of times. All deliveries end
like the first, and the files are those that the first has left. They are complete, or
all of them are refused and each adds an error, or there is a content without an
encoding at which all of them end. A directory whose path has no encoding stays as it is. -/
theorem attempts_end_alike (hfiles : p.files = .ok files) {text : String} (htext : text ≠ "")
    (hnull : '\x00' ∉ text.toList) (d : Delivery) (now : Instant) (later : List Instant) :
    ∃ result messages,
      (d.attempts p (some text) (now :: later)).1 =
        List.replicate (later.length + 1) (.ok result) ∧
      (∀ l, (d.attempts p (some text) (now :: later)).2.tree.fileAt? l =
        (d.attempt p now (some text)).2.tree.fileAt? l) ∧
      (d.attempts p (some text) (now :: later)).2.errors = d.errors ++ messages ∧
      (result = .complete (.ofText text) ∧ messages = [] ∨
        result = .refused ∧ messages.length = later.length + 1 ∨
        (∃ file ∈ files, ∃ fault, Text.encodingFault? file.2.toList = some fault ∧
          result = .unencodable fault ∧ messages = []) ∨
        ∃ fault, (FilePath.ofText text).fault? = some fault ∧ result = .unencodable fault ∧
          messages = [] ∧ (d.attempts p (some text) (now :: later)).2 = d) := by
  have hdirectory : ∀ now, p.directory now (some text) = .ok (.ofText text) := by
    intro now
    rw [Package.directory, Option.filter_some, if_pos (by simpa using htext)]
  have hnull' : '\x00' ∉ (FilePath.ofText text).text.toList := by
    intro h
    rcases FilePath.mem_of_mem_text h with h | h | h
    · exact absurd h (by decide)
    · exact absurd h (by decide)
    · exact hnull h
  cases hfault : (FilePath.ofText text).fault? with
  | some fault =>
    rw [attempts_of_fault?_eq_some hfiles hdirectory hfault,
      attempt_of_fault?_eq_some (hdirectory now) hfiles hfault]
    exact ⟨_, [], rfl, fun _ => rfl, (List.append_nil _).symm,
      .inr (.inr (.inr ⟨fault, rfl, rfl, rfl, rfl⟩))⟩
  | none =>
    obtain ⟨messages, hmessages, hcount⟩ := exists_errors_write d (.ofText text) files
    obtain ⟨hresults, htree, further, hfurther, hlength⟩ :=
      attempts_after hfiles hdirectory hfault hnull' later (FileTree.growsTo_refl _)
    have htotal : (messages ++ further).length =
        (later.length + 1) * (d.write (.ofText text) files).1.errorCount := by
      rw [List.length_append, hcount, hlength, Nat.succ_mul, Nat.add_comm]
    rw [attempts_cons, attempt_of_files_eq_ok (hdirectory now) hfault hnull' hfiles]
    refine ⟨(d.write (.ofText text) files).1, messages ++ further, ?_, htree.fileAt?, ?_, ?_⟩
    · rw [hresults, List.replicate_succ]
    · rw [hfurther, hmessages, List.append_assoc]
    · rcases write_cases d (.ofText text) files with h | h | ⟨file, hfile, fault, hfault, h⟩
      · rw [h] at htotal ⊢
        exact .inl ⟨rfl, List.length_eq_zero_iff.1 htotal⟩
      · rw [h] at htotal ⊢
        exact .inr (.inl ⟨rfl, htotal.trans (Nat.mul_one _)⟩)
      · rw [h] at htotal ⊢
        exact .inr (.inr (.inl ⟨file, hfile, fault, hfault, rfl,
          List.length_eq_zero_iff.1 htotal⟩))

theorem attempts_end_alike_blocked :
    (blocked.attempts plain (some "out") [⟨0⟩, ⟨1⟩, ⟨2⟩]).1 =
        [.ok .refused, .ok .refused, .ok .refused] ∧
      (blocked.attempts plain (some "out") [⟨0⟩, ⟨1⟩, ⟨2⟩]).2.errors.length = 3 := by
  obtain ⟨files, hfiles⟩ := exists_files_plain
  have hnull : '\x00' ∉ "out".toList := by decide
  obtain ⟨result, messages, hresults, -, herrors, hend⟩ :=
    attempts_end_alike hfiles (by decide) hnull blocked ⟨0⟩ [⟨1⟩, ⟨2⟩]
  have hfirst := hresults
  rw [attempts_cons, attempt_blocked] at hfirst
  obtain rfl := Except.ok.inj (List.cons.inj hfirst).1
  have hcount : messages.length = 3 := by
    rcases hend with ⟨h, -⟩ | ⟨-, h⟩ | ⟨_, _, _, _, h, -⟩ | ⟨_, -, h, -⟩
    · cases h
    · exact h
    · cases h
    · cases h
  rw [hresults, herrors, List.length_append, hcount]
  exact ⟨rfl, rfl⟩

/-- A request for a version that is a half of a pair. -/
def halfRequest : Json :=
  .object [("deploymentInfo",
    .object [("version", .string (String.ofList [Text.halfChar 0xd800]))])]

theorem exists_place_empty :
    ∃ after, Disk.place ⟨.empty, []⟩ ((FilePath.ofText "out").child "pubspec.yaml") "" =
      (after, none) := by
  obtain ⟨made, hmade, written, hwritten⟩ :
      ∃ made, Disk.makeDirectory ⟨.empty, []⟩ (.ofText "out") = (made, none) ∧
        ∃ written, made.writeFile ((FilePath.ofText "out").child "pubspec.yaml") "" =
          (written, none) :=
    ⟨_, rfl, _, rfl⟩
  refine ⟨written, ?_⟩
  rw [Disk.place, parent_manifest, Disk.ensureDirectory, hmade]
  simp only [hwritten]

/-- The manifest has no encoding, so that a delivery of this package is neither complete
nor does it leave an error. -/
theorem attempt_halfRequest :
    ∃ files fault,
      (Package.ofRequest Package.standardDefaults ⟨1700000000123456⟩ halfRequest).files =
        .ok files ∧
      (attempt ⟨.empty, []⟩ (.ofRequest Package.standardDefaults ⟨1700000000123456⟩ halfRequest)
        ⟨1700000000123456⟩ (some "out")).1 = .ok (.unencodable fault) := by
  generalize hp : Package.ofRequest Package.standardDefaults ⟨1700000000123456⟩ halfRequest = p
  have hcode : p.mainCode.isOk = true := by
    rw [← hp]
    decide
  have hversion : p.config.version.toList = [Text.halfChar 0xd800] := by
    rw [← hp]
    decide
  rw [← Package.isOk_files] at hcode
  obtain ⟨files, hfiles⟩ := (exists_eq_ok_iff _).2 hcode
  obtain ⟨manifest, _, _, _, _, _, _, hmanifest, -, -, -, -, -, -, rfl⟩ :=
    Package.exists_of_files_eq_ok hfiles
  have hinfix := Package.infix_manifest_version hmanifest
  rw [hversion] at hinfix
  have hlost : Text.isEncodable manifest.toList = false :=
    Text.isEncodable_eq_false_of_infix (by decide) (Text.half?_halfChar (by decide)) hinfix
  obtain ⟨fault, hfault⟩ : ∃ fault, Text.encodingFault? manifest.toList = some fault := by
    rw [← Option.ne_none_iff_exists', Ne, Text.encodingFault?_eq_none, hlost]
    decide
  have hplain : (FilePath.ofText "out").fault? = none := by decide
  have hnull : '\x00' ∉ (FilePath.ofText "out").text.toList := by decide
  obtain ⟨after, hplace⟩ := exists_place_empty
  refine ⟨_, fault, hfiles, ?_⟩
  rw [attempt_of_files_eq_ok rfl hplain hnull hfiles, write_eq]
  simp only [placed, accepted, encodable, hfault, List.nil_append, Disk.placeAll, hplace]

end Delivery

end Maquette
