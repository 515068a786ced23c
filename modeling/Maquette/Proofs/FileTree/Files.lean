import Maquette.Proofs.FileTree.Disk

/-!
# Placing files

Files that are placed one after another below a directory either all get there, or a
first one is refused. Then those before it are there, and nothing else has changed but
for directories that are new. This takes files at different locations, so that none is
written over another.

Without refusals, a second attempt in the tree that the first has left goes the same way.
What the first has written is written again with the same content, and what was refused is
refused again: no attempt takes away what was in the way.
-/

namespace Maquette

namespace FileTree

variable {t u v w : FileTree} {p directory : FilePath} {l : Location} {content : String}
  {files : List (String × String)}

/-- The content of the file at a location. -/
def fileAt? (t : FileTree) (l : Location) : Option String :=
  match t.node? l with
  | some (.file content) => some content
  | _ => none

/-- The content of the file that a path leads to. -/
def contentOf? (t : FileTree) (p : FilePath) : Option String :=
  match t.locate p .isDirectory with
  | .ok l => t.fileAt? l
  | .error _ => none

/-- The second tree has these files below a directory. It has the other files of the first
tree and no more, and the directories of the first tree. -/
structure Gains (t u : FileTree) (directory : FilePath) (files : List (String × String)) :
    Prop where
  present : ∀ file ∈ files, u.contentOf? (directory.child file.1) = some file.2
  others : ∀ l, (∀ file ∈ files, l ≠ (directory.child file.1).location) →
    u.fileAt? l = t.fileAt? l
  directories : ∀ l, t.node? l = some .directory → u.node? l = some .directory

theorem fileAt?_eq_some_iff : t.fileAt? l = some content ↔ t.node? l = some (.file content) := by
  rw [fileAt?]
  cases t.node? l with
  | none => simp
  | some node => cases node <;> simp

theorem exists_of_contentOf? (h : t.contentOf? p = some content) :
    ∃ l, t.locate p .isDirectory = .ok l ∧ t.node? l = some (.file content) := by
  rw [contentOf?] at h
  cases hl : t.locate p .isDirectory with
  | error fault =>
    rw [hl] at h
    cases h
  | ok l =>
    rw [hl] at h
    exact ⟨l, rfl, fileAt?_eq_some_iff.1 h⟩

theorem contentOf?_eq_some (hl : t.locate p .isDirectory = .ok l)
    (hfile : t.fileAt? l = some content) : t.contentOf? p = some content := by
  rw [contentOf?, hl]
  exact hfile

theorem GrowsTo.fileAt? (h : t.GrowsTo u) (l : Location) : u.fileAt? l = t.fileAt? l := by
  rcases h l with hl | ⟨hnone, hdirectory⟩
  · rw [FileTree.fileAt?, hl, FileTree.fileAt?]
  · rw [FileTree.fileAt?, hdirectory, FileTree.fileAt?, hnone]

theorem GrowsTo.gains (h : t.GrowsTo u) (directory : FilePath) : t.Gains u directory [] where
  present _ hfile := nomatch hfile
  others l _ := h.fileAt? l
  directories _ := h.node?

/-- A file stays as it is if none of the new ones is at its location. -/
theorem Gains.contentOf? (h : t.Gains u directory files)
    (hp : ∀ file ∈ files, p.location ≠ (directory.child file.1).location)
    (hcontent : t.contentOf? p = some content) : u.contentOf? p = some content := by
  obtain ⟨l, hl, hfile⟩ := exists_of_contentOf? hcontent
  refine contentOf?_eq_some (locate_mono h.directories hl) ?_
  rw [h.others l (eq_location_of_locate hl ▸ hp), fileAt?_eq_some_iff, hfile]

theorem GrowsTo.contentOf? (h : t.GrowsTo u) (hcontent : t.contentOf? p = some content) :
    u.contentOf? p = some content :=
  (h.gains p).contentOf? (fun _ hfile => nomatch hfile) hcontent

theorem Gains.cons {file : String × String} (h : t.Gains u directory [file])
    (h' : u.Gains v directory files)
    (hfile : ∀ other ∈ files,
      (directory.child file.1).location ≠ (directory.child other.1).location) :
    t.Gains v directory (file :: files) where
  present other hother := by
    rcases List.mem_cons.1 hother with rfl | hother
    · exact h'.contentOf? hfile (h.present other List.mem_cons_self)
    · exact h'.present other hother
  others l hl := by
    rw [h'.others l fun other hother => hl other (List.mem_cons_of_mem _ hother)]
    refine h.others l fun other hother => ?_
    rw [List.mem_singleton.1 hother]
    exact hl file List.mem_cons_self
  directories l hl := h'.directories l (h.directories l hl)

theorem Gains.of_growsTo (h : t.GrowsTo u) (h' : u.Gains v directory files) :
    t.Gains v directory files where
  present := h'.present
  others l hl := by rw [h'.others l hl, h.fileAt?]
  directories l hl := h'.directories l (h.node? hl)

theorem exists_of_writeFile_eq_ok (h : t.writeFile p content = .ok u) :
    ∃ l, t.locate p .isDirectory = .ok l ∧ t.node? l ≠ some .directory ∧
      u = t.put l (.file content) := by
  obtain ⟨l, hl, h⟩ := exists_of_bind_eq_ok h
  refine ⟨l, hl, ?_⟩
  cases hnode : t.node? l with
  | none =>
    rw [hnode] at h
    exact ⟨nofun, (Except.ok.inj h).symm⟩
  | some node =>
    rw [hnode] at h
    cases node with
    | directory => cases h
    | file other => exact ⟨nofun, (Except.ok.inj h).symm⟩

theorem writeFile_eq_ok (hl : t.locate p .isDirectory = .ok l)
    (hnode : t.node? l ≠ some .directory) :
    t.writeFile p content = .ok (t.put l (.file content)) := by
  rw [writeFile, hl]
  simp only [bind, Except.bind]
  cases hfound : t.node? l with
  | none => rfl
  | some node =>
    cases node with
    | directory => exact absurd hfound hnode
    | file other => rfl

theorem writeFile_gains {name : String}
    (h : t.writeFile (directory.child name) content = .ok u) :
    t.Gains u directory [(name, content)] := by
  obtain ⟨l, hl, hnode, rfl⟩ := exists_of_writeFile_eq_ok h
  have hne : l ≠ [] := by
    rintro rfl
    exact hnode rfl
  have hkept : ∀ other, t.node? other = some .directory →
      (t.put l (.file content)).node? other = some .directory := by
    intro other hother
    rwa [node?_put_of_ne]
    rintro rfl
    exact hnode hother
  refine ⟨?_, ?_, hkept⟩
  · intro file hfile
    rw [List.mem_singleton.1 hfile]
    exact contentOf?_eq_some (locate_mono hkept hl) (fileAt?_eq_some_iff.2 (node?_put_self hne))
  · intro other hother
    have hother := hother _ List.mem_cons_self
    rw [← eq_location_of_locate hl] at hother
    rw [fileAt?, node?_put_of_ne hother, fileAt?]

/-- What can be written in a tree that has grown could be written before, if the directory
was there. -/
theorem exists_writeFile_of_growsTo (hparent : t.isDirectory p.parent = true)
    (hgrows : t.GrowsTo u) (h : u.writeFile p content = .ok w) :
    ∃ v, t.writeFile p content = .ok v := by
  obtain ⟨l, hl, hnode, -⟩ := exists_of_writeFile_eq_ok h
  exact ⟨_, writeFile_eq_ok (locate_of_isDirectory_parent hl hparent)
    fun hdirectory => hnode (hgrows.node? hdirectory)⟩

end FileTree

/-- Placing a file is refused on this disk, with this problem: its directory cannot be made,
or is there and the file cannot be written. -/
inductive Disk.Refuses (d : Disk) (p : FilePath) (content : String) : FileProblem → Prop
  | directory {problem : FileProblem} (refused : d.RefusesDirectory p.parent problem) :
      d.Refuses p content problem
  | file {fault : FileFault} (parent : d.tree.isDirectory p.parent = true)
      (refused : (d.writeFile p content).2 = some fault) : d.Refuses p content ⟨fault, p⟩

namespace Disk

variable {d e f : Disk} {w : FileTree} {p directory : FilePath} {content : String}
  {problem : FileProblem} {files : List (String × String)}

theorem exists_of_place_eq_none (h : d.place p content = (e, none)) :
    ∃ above, d.ensureDirectory p.parent = (above, none) ∧ above.writeFile p content = (e, none) := by
  rw [place] at h
  split at h
  · cases h
  · next above habove =>
    refine ⟨above, habove, ?_⟩
    split at h
    · next written hwritten =>
      cases h
      exact hwritten
    · cases h

theorem exists_of_place_eq_some (h : d.place p content = (e, some problem)) :
    d.ensureDirectory p.parent = (e, some problem) ∨
      ∃ above fault, d.ensureDirectory p.parent = (above, none) ∧
        above.writeFile p content = (e, some fault) ∧ problem = ⟨fault, p⟩ := by
  rw [place] at h
  split at h
  · next above other habove =>
    cases h
    exact .inl habove
  · next above habove =>
    split at h
    · cases h
    · next after fault hfault =>
      cases h
      exact .inr ⟨above, fault, habove, hfault, rfl⟩

theorem place_gains {name : String} (h : d.place (directory.child name) content = (e, none)) :
    d.tree.Gains e.tree directory [(name, content)] := by
  obtain ⟨above, habove, hwrite⟩ := exists_of_place_eq_none h
  exact .of_growsTo (growsTo_of_ensureDirectory habove).tree
    (FileTree.writeFile_gains (ok_of_perform hwrite))

/-- What stands in the way of a file is found on a disk that is met on the way to it. -/
theorem exists_refuses (h : d.place p content = (e, some problem)) :
    ∃ last : Disk, d.GrowsTo last ∧ last.tree = e.tree ∧ last.Refuses p content problem := by
  rcases exists_of_place_eq_some h with habove | ⟨above, fault, habove, hwrite, rfl⟩
  · obtain ⟨last, hgrows, htree, hrefuses⟩ :=
      exists_refusesDirectory (d := d) (p := p.parent) (by rw [habove])
    rw [habove] at htree
    exact ⟨last, hgrows, htree, .directory hrefuses⟩
  · exact ⟨above, growsTo_of_ensureDirectory habove, (tree_of_perform hwrite).symm,
      .file (isDirectory_of_ensureDirectory habove) (by rw [hwrite])⟩

theorem growsTo_of_place (h : d.place p content = (e, some problem)) : d.GrowsTo e := by
  rcases exists_of_place_eq_some h with habove | ⟨above, fault, habove, hwrite, -⟩
  · exact growsTo_of_ensureDirectory habove
  · exact (growsTo_of_ensureDirectory habove).trans (growsTo_of_refused hwrite)

/-- What can be placed after a tree has grown is not refused before, if the disk has no
refusals. -/
theorem not_refuses (hcalm : d.refusals = []) (hgrows : d.tree.GrowsTo e.tree)
    (h : e.place p content = (f, none)) : ¬d.Refuses p content problem := by
  obtain ⟨above, habove, hwrite⟩ := exists_of_place_eq_none h
  have hlater := hgrows.trans (growsTo_of_ensureDirectory habove).tree
  have hthere := isDirectory_of_ensureDirectory habove
  intro hrefuses
  cases hrefuses with
  | directory hrefused => exact not_refusesDirectory hcalm hlater.admits hthere hrefused
  | file hparent hrefused =>
    obtain ⟨tree, htree⟩ :=
      FileTree.exists_writeFile_of_growsTo hparent hlater (ok_of_perform hwrite)
    rw [writeFile, perform_of_ok hcalm htree] at hrefused
    cases hrefused

/-- What was refused is refused again. -/
theorem exists_place_eq_some (hcalm : d.refusals = [])
    (h : d.place p content = (e, some problem)) (hgrows : e.tree.GrowsTo f.tree) :
    ∃ after other, f.place p content = (after, some other) := by
  obtain ⟨last, hlast, htree, hrefuses⟩ := exists_refuses h
  cases hplace : f.place p content with
  | mk after outcome =>
    cases outcome with
    | some other => exact ⟨after, other, rfl⟩
    | none =>
      exact absurd hrefuses
        (not_refuses (hlast.refusals_eq_nil hcalm) (htree ▸ hgrows) hplace)

/-- What is there with its content is written again, and nothing else happens. -/
theorem exists_place_of_contentOf? (hcalm : d.refusals = [])
    (h : d.tree.contentOf? p = some content) :
    ∃ e, d.place p content = (e, none) ∧ d.GrowsTo e := by
  obtain ⟨l, hl, hfile⟩ := FileTree.exists_of_contentOf? h
  have hnode : d.tree.node? l ≠ some .directory := by
    rw [hfile]
    exact nofun
  have hne : l ≠ [] := by
    rintro rfl
    exact hnode rfl
  have hparent := FileTree.isDirectory_parent_of_locate hl
  have hwrite : d.writeFile p content = (⟨d.tree.put l (.file content), []⟩, none) :=
    perform_of_ok hcalm (FileTree.writeFile_eq_ok hl hnode)
  refine ⟨⟨d.tree.put l (.file content), []⟩, ?_, ⟨fun other => .inl ?_, List.nil_suffix⟩⟩
  · rw [place, ensureDirectory_of_isDirectory hcalm hparent]
    simp only [hwrite]
  · by_cases hother : other = l
    · rw [hother, FileTree.node?_put_self hne, hfile]
    · exact FileTree.node?_put_of_ne hother

theorem exists_placeAll_of_contentOf? (hcalm : d.refusals = [])
    (h : ∀ file ∈ files, d.tree.contentOf? (directory.child file.1) = some file.2) :
    ∃ e, placeAll directory d files = (e, none) ∧ d.GrowsTo e := by
  induction files generalizing d with
  | nil => exact ⟨d, rfl, growsTo_refl d⟩
  | cons file files ih =>
    obtain ⟨name, content⟩ := file
    obtain ⟨e, hplace, hgrows⟩ := exists_place_of_contentOf? hcalm (h _ List.mem_cons_self)
    obtain ⟨last, hrest, hgrows'⟩ := ih (d := e) (hgrows.refusals_eq_nil hcalm)
      fun file hfile => hgrows.tree.contentOf? (h file (List.mem_cons_of_mem _ hfile))
    refine ⟨last, ?_, hgrows.trans hgrows'⟩
    rw [placeAll, hplace]
    exact hrest

theorem placeAll_append (directory : FilePath) (d : Disk) (files more : List (String × String)) :
    placeAll directory d (files ++ more) =
      match placeAll directory d files with
      | (after, some problem) => (after, some problem)
      | (after, none) => placeAll directory after more := by
  induction files generalizing d with
  | nil => rfl
  | cons file files ih =>
    obtain ⟨name, content⟩ := file
    rw [List.cons_append, placeAll, placeAll]
    split
    · rfl
    · exact ih _

/-- Files are placed up to the first that is refused. -/
theorem exists_of_placeAll {outcome : Option FileProblem}
    (hdistinct : (files.map fun file => (directory.child file.1).location).Nodup)
    (h : placeAll directory d files = (e, outcome)) :
    ∃ written rest reached, files = written ++ rest ∧
      placeAll directory d written = (reached, none) ∧
      d.tree.Gains e.tree directory written ∧
      (outcome = none ∧ rest = [] ∨
        ∃ file more problem, outcome = some problem ∧ rest = file :: more ∧
          reached.place (directory.child file.1) file.2 = (e, some problem)) := by
  induction files generalizing d with
  | nil =>
    cases h
    exact ⟨[], [], _, rfl, rfl, (FileTree.growsTo_refl _).gains directory, .inl ⟨rfl, rfl⟩⟩
  | cons file files ih =>
    obtain ⟨name, content⟩ := file
    rw [List.map_cons, List.nodup_cons] at hdistinct
    rw [placeAll] at h
    split at h
    · next after problem hplace =>
      cases h
      exact ⟨[], _, d, rfl, rfl, (growsTo_of_place hplace).tree.gains directory,
        .inr ⟨(name, content), files, problem, rfl, rfl, hplace⟩⟩
    · next after hplace =>
      obtain ⟨written, rest, reached, rfl, hwritten, hgains, hrest⟩ := ih hdistinct.2 h
      refine ⟨(name, content) :: written, rest, reached, rfl, ?_, ?_, hrest⟩
      · rw [placeAll, hplace]
        exact hwritten
      · refine (place_gains hplace).cons hgains fun other hother heq => hdistinct.1 ?_
        exact List.mem_map.2 ⟨other, List.mem_append_left _ hother, heq.symm⟩

/-- What a disk refuses later it has refused from the start. -/
theorem refusals_of_placeAll {outcome : Option FileProblem}
    (h : placeAll directory d files = (e, outcome)) : e.refusals <:+ d.refusals := by
  induction files generalizing d with
  | nil =>
    cases h
    exact List.suffix_refl _
  | cons file files ih =>
    rw [placeAll] at h
    split at h
    · next after problem hplace =>
      cases h
      exact (growsTo_of_place hplace).refusals
    · next after hplace =>
      obtain ⟨above, habove, hwrite⟩ := exists_of_place_eq_none hplace
      refine (ih h).trans ?_
      rw [refusals_of_perform hwrite]
      exact (List.tail_suffix _).trans (growsTo_of_ensureDirectory habove).refusals

/-- A second attempt goes the way of the first, and at most makes directories. -/
theorem exists_placeAll_again {outcome : Option FileProblem} (hcalm : d.refusals = [])
    (hcalm' : f.refusals = [])
    (hdistinct : (files.map fun file => (directory.child file.1).location).Nodup)
    (h : placeAll directory d files = (e, outcome)) (hgrows : e.tree.GrowsTo f.tree) :
    ∃ last again, placeAll directory f files = (last, again) ∧
      again.isSome = outcome.isSome ∧ f.GrowsTo last := by
  obtain ⟨written, rest, reached, rfl, hreached, hgains, hrest⟩ := exists_of_placeAll hdistinct h
  obtain ⟨later, hwritten, hgrows'⟩ := exists_placeAll_of_contentOf? (d := f) hcalm'
    fun file hfile => hgrows.contentOf? (hgains.present file hfile)
  rcases hrest with ⟨rfl, rfl⟩ | ⟨file, more, problem, rfl, rfl, hplace⟩
  · exact ⟨later, none, by rw [List.append_nil, hwritten], rfl, hgrows'⟩
  · have hcalm'' : reached.refusals = [] :=
      List.suffix_nil.1 (hcalm ▸ refusals_of_placeAll hreached)
    obtain ⟨last, other, hother⟩ :=
      exists_place_eq_some hcalm'' hplace (hgrows.trans hgrows'.tree)
    refine ⟨last, some other, ?_, rfl, hgrows'.trans (growsTo_of_place hother)⟩
    rw [placeAll_append, hwritten]
    simp only [placeAll, hother]

end Disk

end Maquette
