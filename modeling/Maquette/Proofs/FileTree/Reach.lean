import Maquette.Proofs.FileTree.Files

/-!
# What an operation reaches

Making a directory and placing a file change a tree on the way to their path only: at the
locations that the first names of the path lead to. So files that are placed below a
directory change nothing but the directories on the way to it and what is below it.

On the way to a file of another tree there are only directories of that tree. So placing
files never gets into the way of a tree that has them, and without refusals it comes to an
end if the tree from which it starts can become such a tree.
-/

namespace Maquette

/-- The location is where some first names of the path lead to. -/
def FilePath.Passes (p : FilePath) (l : Location) : Prop :=
  ∃ names, names <+: p.names ∧ l = FileTree.walk [] names

theorem FilePath.passes_location (p : FilePath) : p.Passes p.location :=
  ⟨p.names, List.prefix_refl _, rfl⟩

theorem FilePath.Passes.of_parent {p : FilePath} {l : Location} (h : p.parent.Passes l) :
    p.Passes l := by
  obtain ⟨names, hnames, hl⟩ := h
  exact ⟨names, hnames.trans (List.dropLast_prefix _), hl⟩

/-- On the way to what is below a directory is the way to the directory, and then what is
below it. -/
theorem FilePath.Passes.cases {p : FilePath} {more : List String} {l : Location}
    (hmore : ".." ∉ more) (h : FilePath.Passes { p with names := p.names ++ more } l) :
    p.Passes l ∨ ∃ below, below <+: more ∧ l = p.location ++ below := by
  obtain ⟨names, hnames, rfl⟩ := h
  rcases List.prefix_or_prefix_of_prefix hnames (List.prefix_append _ _) with h | ⟨below, rfl⟩
  · exact .inl ⟨names, h, rfl⟩
  · rw [List.prefix_append_right_inj] at hnames
    refine .inr ⟨below, hnames, ?_⟩
    rw [FileTree.walk_append, FileTree.walk_of_notMem fun hback => hmore (hnames.subset hback),
      location]

namespace FileTree

variable {t u : FileTree} {p : FilePath} {l : Location}

theorem Admits.put_file {w : FileTree} {content other : String} (h : t.Admits w)
    (hfile : w.node? l = some (.file other)) : (t.put l (.file content)).Admits w := by
  intro l' content' hnode
  by_cases hl : l' = l
  · rw [hl, hfile]
    exact nofun
  · rw [node?_put_of_ne hl] at hnode
    exact h l' content' hnode

theorem Admits.of_put_file {w : FileTree} {content : String} (h : w.Admits t) :
    w.Admits (t.put l (.file content)) := by
  intro l' content' hfile hdirectory
  by_cases hl : l' = l
  · rw [hl] at hfile hdirectory
    have hne : l ≠ [] := by
      rintro rfl
      cases hfile
    rw [node?_put_self hne] at hdirectory
    cases hdirectory
  · rw [node?_put_of_ne hl] at hdirectory
    exact h l' content' hfile hdirectory

theorem Gains.admits {directory : FilePath} {files : List (String × String)}
    (h : t.Gains u directory files) : t.Admits u := by
  intro l content hfile hdirectory
  by_cases hnew : ∃ file ∈ files, l = (directory.child file.1).location
  · obtain ⟨file, hmem, rfl⟩ := hnew
    obtain ⟨here, hlocate, hnode⟩ := exists_of_contentOf? (h.present file hmem)
    rw [eq_location_of_locate hlocate, hdirectory] at hnode
    cases hnode
  · have hothers := h.others l fun file hmem hl => hnew ⟨file, hmem, hl⟩
    rw [fileAt?_eq_some_iff.2 hfile, fileAt?_eq_some_iff, hdirectory] at hothers
    cases hothers

theorem Gains.admits_back {directory : FilePath} {files : List (String × String)}
    (h : t.Gains u directory files) : u.Admits t := by
  intro l content hfile hdirectory
  rw [h.directories l hdirectory] at hfile
  cases hfile

theorem passes_of_put {here : Location} {last : FileFault} {node : Node}
    (hlocate : t.locate p last = .ok here) (h : (t.put here node).node? l ≠ t.node? l) :
    p.Passes l := by
  by_cases hl : l = here
  · rw [hl, eq_location_of_locate hlocate]
    exact p.passes_location
  · exact absurd (node?_put_of_ne hl) h

/-- Names that lead on pass directories only. -/
theorem node?_walk_of_enter {here : Location} {names first : List String}
    (hhere : ∀ n, t.node? (here.take n) = some .directory) (h : t.enter here names = .ok l)
    (hfirst : first <+: names) : t.node? (walk here first) = some .directory := by
  induction names generalizing here first with
  | nil =>
    rw [List.prefix_nil.1 hfirst, walk, ← here.take_length]
    exact hhere _
  | cons name names ih =>
    cases first with
    | nil =>
      rw [walk, ← here.take_length]
      exact hhere _
    | cons other first =>
      obtain ⟨rfl, hrest⟩ := List.cons_prefix_cons.1 hfirst
      rw [walk]
      rcases enter_cons_eq_ok_iff.1 h with ⟨hback, h⟩ | ⟨hname, -, hnode, h⟩
      · rw [if_pos hback]
        refine ih (fun n => ?_) h hrest
        rw [List.dropLast_eq_take, List.take_take]
        exact hhere _
      · rw [if_neg hname]
        refine ih (fun n => ?_) h hrest
        rcases Nat.lt_or_ge here.length n with hlong | hshort
        · rwa [List.take_of_length_le (by rw [List.length_append]; exact hlong)]
        · rw [List.take_append_of_le_length hshort]
          exact hhere n

theorem node?_of_passes (h : t.isDirectory p = true) (hl : p.Passes l) :
    t.node? l = some .directory := by
  obtain ⟨-, last, henter⟩ := isDirectory_iff.1 h
  obtain ⟨names, hnames, rfl⟩ := hl
  exact node?_walk_of_enter (fun n => by rw [List.take_nil, node?]) henter hnames

theorem passes_of_makeDirectory (hmade : t.makeDirectory p = .ok u) (h : u.node? l ≠ t.node? l) :
    p.Passes l := by
  obtain ⟨here, hl, -, rfl⟩ := exists_of_makeDirectory_eq_ok hmade
  exact passes_of_put hl h

end FileTree

namespace Disk

variable {d e : Disk} {p directory : FilePath} {l : Location} {content : String}

theorem passes_of_makeDirectory (hmade : d.makeDirectory p = (e, none))
    (h : e.tree.node? l ≠ d.tree.node? l) : p.Passes l :=
  FileTree.passes_of_makeDirectory (ok_of_perform hmade) h

theorem passes_of_ensureDirectory
    (h : (d.ensureDirectory p).1.tree.node? l ≠ d.tree.node? l) : p.Passes l := by
  fun_induction ensureDirectory d p with
  | case1 d p made hmade => exact passes_of_makeDirectory hmade h
  | case2 d p after fault hmake hmissing hnames => exact absurd (tree_of_perform hmake ▸ rfl) h
  | case3 d p after fault hmake hmissing hnames above problem habove ih =>
    rw [habove, tree_of_perform hmake] at ih
    exact (ih h).of_parent
  | case4 d p after fault hmake hmissing hnames above habove made hmade ih =>
    rw [habove, tree_of_perform hmake] at ih
    by_cases hsame : above.tree.node? l = d.tree.node? l
    · exact passes_of_makeDirectory hmade (hsame ▸ h)
    · exact (ih hsame).of_parent
  | case5 d p after fault hmake hmissing hnames above habove again other hagain hother ih =>
    rw [habove, tree_of_perform hmake] at ih
    exact (ih (tree_of_perform hagain ▸ h)).of_parent
  | case6 d p after fault hmake hmissing hnames above habove again other hagain hother ih =>
    rw [habove, tree_of_perform hmake] at ih
    exact (ih (tree_of_perform hagain ▸ h)).of_parent
  | case7 d p after fault hmake hmissing => exact absurd (tree_of_perform hmake ▸ rfl) h

theorem passes_of_place {outcome : Option FileProblem} (hplace : d.place p content = (e, outcome))
    (h : e.tree.node? l ≠ d.tree.node? l) : p.Passes l := by
  by_cases hparent : (d.ensureDirectory p.parent).1.tree.node? l = d.tree.node? l
  · cases outcome with
    | none =>
      obtain ⟨above, habove, hwrite⟩ := exists_of_place_eq_none hplace
      obtain ⟨here, hlocate, -, htree⟩ := FileTree.exists_of_writeFile_eq_ok (ok_of_perform hwrite)
      rw [habove] at hparent
      exact FileTree.passes_of_put hlocate (htree ▸ hparent ▸ h)
    | some problem =>
      rcases exists_of_place_eq_some hplace with habove | ⟨above, fault, habove, hwrite, -⟩
      · rw [habove] at hparent
        exact absurd hparent h
      · rw [habove, ← tree_of_perform hwrite] at hparent
        exact absurd hparent h
  · exact (passes_of_ensureDirectory hparent).of_parent

theorem exists_passes_of_placeAll {files : List (String × String)}
    (h : (placeAll directory d files).1.tree.node? l ≠ d.tree.node? l) :
    ∃ file ∈ files, (directory.child file.1).Passes l := by
  induction files generalizing d with
  | nil => exact absurd rfl h
  | cons file files ih =>
    obtain ⟨name, content⟩ := file
    rw [placeAll] at h
    split at h
    · next after problem hplace => exact ⟨_, List.mem_cons_self, passes_of_place hplace h⟩
    · next after hplace =>
      by_cases hfirst : after.tree.node? l = d.tree.node? l
      · obtain ⟨other, hother, hpasses⟩ := ih (hfirst ▸ h)
        exact ⟨other, List.mem_cons_of_mem _ hother, hpasses⟩
      · exact ⟨_, List.mem_cons_self, passes_of_place hplace hfirst⟩

/-- No directory is made in the place of a file of a tree that has the directory. -/
theorem admits_ensureDirectory {w : FileTree} (h : w.Admits d.tree)
    (hp : w.isDirectory p = true) : w.Admits (d.ensureDirectory p).1.tree := by
  intro l content hfile hdirectory
  by_cases hsame : (d.ensureDirectory p).1.tree.node? l = d.tree.node? l
  · exact h l content hfile (hsame ▸ hdirectory)
  · rw [FileTree.node?_of_passes hp (passes_of_ensureDirectory hsame)] at hfile
    cases hfile

/-- A file is placed if the tree can become one that has it. It can still become that one. -/
theorem exists_place_of_admits {w : FileTree} (hcalm : d.refusals = [])
    (h : d.tree.Admits w) (h' : w.Admits d.tree) (hp : w.contentOf? p = some content) :
    ∃ e, d.place p content = (e, none) ∧ e.refusals = [] ∧ e.tree.Admits w ∧
      w.Admits e.tree := by
  obtain ⟨l, hl, hfile⟩ := FileTree.exists_of_contentOf? hp
  have hparent := FileTree.isDirectory_parent_of_locate hl
  have hnone := ensureDirectory_eq_none_of_admits hcalm h hparent
  have hadmits := admits_ensureDirectory h' hparent
  cases habove : d.ensureDirectory p.parent with
  | mk above outcome =>
    rw [habove] at hnone hadmits
    obtain rfl : outcome = none := hnone
    have hgrows := growsTo_of_ensureDirectory habove
    have hwrite : above.writeFile p content = (⟨above.tree.put l (.file content), []⟩, none) :=
      perform_of_ok (hgrows.refusals_eq_nil hcalm)
        (FileTree.writeFile_eq_ok (FileTree.locate_of_isDirectory_parent hl
          (isDirectory_of_ensureDirectory habove)) (hadmits l content hfile))
    have hplace : d.place p content = (⟨above.tree.put l (.file content), []⟩, none) := by
      rw [place, habove]
      simp only [hwrite]
    exact ⟨_, hplace, rfl, (h.of_growsTo hgrows.tree).put_file hfile, hadmits.of_put_file⟩

/-- Without refusals, files are placed exactly if the tree can become one that has them. -/
theorem placeAll_eq_none_iff {files : List (String × String)} (hcalm : d.refusals = [])
    (hdistinct : (files.map fun file => (directory.child file.1).location).Nodup) :
    (placeAll directory d files).2 = none ↔
      ∃ w : FileTree, d.tree.Admits w ∧ w.Admits d.tree ∧
        ∀ file ∈ files, w.contentOf? (directory.child file.1) = some file.2 := by
  constructor
  · intro hnone
    cases hplace : placeAll directory d files with
    | mk e outcome =>
      rw [hplace] at hnone
      obtain rfl : outcome = none := hnone
      obtain ⟨written, rest, -, rfl, -, hgains, ⟨-, rfl⟩ | ⟨_, _, _, hsome, -⟩⟩ :=
        exists_of_placeAll hdistinct hplace
      · rw [List.append_nil]
        exact ⟨_, hgains.admits, hgains.admits_back, hgains.present⟩
      · cases hsome
  · rintro ⟨w, h, h', hpresent⟩
    clear hdistinct
    induction files generalizing d with
    | nil => rfl
    | cons file files ih =>
      obtain ⟨name, content⟩ := file
      obtain ⟨e, hplace, hcalm', hadmits, hadmits'⟩ :=
        exists_place_of_admits hcalm h h' (hpresent _ List.mem_cons_self)
      rw [placeAll, hplace]
      exact ih hcalm' hadmits hadmits' fun other hother =>
        hpresent other (List.mem_cons_of_mem _ hother)

end Disk

end Maquette
