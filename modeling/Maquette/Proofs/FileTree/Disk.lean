import Maquette.FileTree.Disk
import Maquette.Proofs.FileTree.Directories

/-!
# Making directories on disks

On a disk an operation either does what it does to the tree or leaves the tree as it is,
and uses up the entry that says which. So the tree of a disk only grows while a directory is
made with those above it, and if that ends with a problem, there is a disk on the way whose
tree is the last one and on which making a directory had this very problem.

A disk without refusals is decided by its tree: what can be made is told by
`FileTree.Admits`.
-/

namespace Maquette

/-- The second disk comes after the first: directories may have been made, and refusals
have come to pass. -/
structure Disk.GrowsTo (d e : Disk) : Prop where
  tree : d.tree.GrowsTo e.tree
  refusals : e.refusals <:+ d.refusals

/-- Making a directory with those above it is refused on this disk, with this problem: the
directory or one above it cannot be made. That something is missing is only a problem if the
directory above is not what is missing. Anything else is only one if the directory is not
there. -/
inductive Disk.RefusesDirectory (d : Disk) : FilePath → FileProblem → Prop
  | missing {p : FilePath} {fault : FileFault} (refused : (d.makeDirectory p).2 = some fault)
      (missing : fault.isMissing = true)
      (parent : p.names = [] ∨ d.tree.isDirectory p.parent = true) :
      d.RefusesDirectory p ⟨fault, p⟩
  | blocked {p : FilePath} {fault : FileFault} (refused : (d.makeDirectory p).2 = some fault)
      (missing : fault.isMissing = false) (there : d.tree.isDirectory p = false) :
      d.RefusesDirectory p ⟨fault, p⟩
  | above {p : FilePath} {problem : FileProblem} (refused : d.RefusesDirectory p.parent problem) :
      d.RefusesDirectory p problem

namespace Disk

variable {d e : Disk} {w : FileTree} {p : FilePath} {fault : FileFault} {problem : FileProblem}
  {operation : FileTree → Except FileFault FileTree}

theorem growsTo_refl (d : Disk) : d.GrowsTo d :=
  ⟨FileTree.growsTo_refl _, List.suffix_refl _⟩

theorem GrowsTo.trans {f : Disk} (h : d.GrowsTo e) (h' : e.GrowsTo f) : d.GrowsTo f :=
  ⟨h.tree.trans h'.tree, h'.refusals.trans h.refusals⟩

/-- A disk without refusals never gets any. -/
theorem GrowsTo.refusals_eq_nil (h : d.GrowsTo e) (hcalm : d.refusals = []) :
    e.refusals = [] :=
  List.suffix_nil.1 (hcalm ▸ h.refusals)

/-- An operation happens to the tree, or the tree stays as it is and there is a reason. -/
theorem perform_cases (d : Disk) (operation : FileTree → Except FileFault FileTree) :
    (∃ tree, operation d.tree = .ok tree ∧
      d.perform operation = (⟨tree, d.refusals.tail⟩, none)) ∨
    ∃ fault, d.perform operation = (⟨d.tree, d.refusals.tail⟩, some fault) := by
  rw [perform]
  cases d.refusals.head?.join with
  | some fault => exact .inr ⟨fault, rfl⟩
  | none =>
    cases hoperation : operation d.tree with
    | ok tree => exact .inl ⟨tree, rfl, rfl⟩
    | error fault => exact .inr ⟨fault, rfl⟩

theorem ok_of_perform (h : d.perform operation = (e, none)) : operation d.tree = .ok e.tree := by
  rcases d.perform_cases operation with ⟨tree, htree, heq⟩ | ⟨fault, heq⟩
  · rw [heq] at h
    cases h
    exact htree
  · rw [heq] at h
    cases h

/-- What is refused changes nothing. -/
theorem tree_of_perform (h : d.perform operation = (e, some fault)) : e.tree = d.tree := by
  rcases d.perform_cases operation with ⟨tree, -, heq⟩ | ⟨other, heq⟩
  · rw [heq] at h
    cases h
  · rw [heq] at h
    cases h
    rfl

theorem refusals_of_perform {outcome : Option FileFault}
    (h : d.perform operation = (e, outcome)) : e.refusals = d.refusals.tail := by
  rcases d.perform_cases operation with ⟨tree, -, heq⟩ | ⟨other, heq⟩ <;>
    rw [heq] at h <;> cases h <;> rfl

theorem perform_of_ok {tree : FileTree} (hcalm : d.refusals = [])
    (h : operation d.tree = .ok tree) : d.perform operation = (⟨tree, []⟩, none) := by
  rw [perform, hcalm, h]
  rfl

theorem perform_of_error (hcalm : d.refusals = []) (h : operation d.tree = .error fault) :
    d.perform operation = (⟨d.tree, []⟩, some fault) := by
  rw [perform, hcalm, h]
  rfl

theorem growsTo_of_refused (h : d.perform operation = (e, some fault)) : d.GrowsTo e where
  tree := tree_of_perform h ▸ FileTree.growsTo_refl _
  refusals := refusals_of_perform h ▸ List.tail_suffix _

theorem growsTo_of_makeDirectory (h : d.makeDirectory p = (e, none)) : d.GrowsTo e where
  tree := FileTree.makeDirectory_growsTo (ok_of_perform h)
  refusals := refusals_of_perform h ▸ List.tail_suffix _

theorem isDirectory_of_makeDirectory (h : d.makeDirectory p = (e, none)) :
    e.tree.isDirectory p = true :=
  FileTree.isDirectory_of_makeDirectory (ok_of_perform h)

theorem unlessThere_of_isDirectory (h : d.tree.isDirectory p = true) :
    d.unlessThere p fault = (d, none) := by
  rw [unlessThere, if_pos h]

theorem isDirectory_of_unlessThere (h : (d.unlessThere p fault).2 = none) :
    d.tree.isDirectory p = true := by
  by_cases hp : d.tree.isDirectory p = true
  · exact hp
  · rw [unlessThere, if_neg hp] at h
    cases h

theorem of_unlessThere_eq_some (h : (d.unlessThere p fault).2 = some problem) :
    d.tree.isDirectory p = false ∧ problem = ⟨fault, p⟩ := by
  cases hp : d.tree.isDirectory p with
  | true =>
    rw [unlessThere_of_isDirectory hp] at h
    cases h
  | false =>
    rw [unlessThere, hp] at h
    exact ⟨rfl, (Option.some.inj h).symm⟩

theorem growsTo_of_ensureDirectory {outcome : Option FileProblem}
    (h : d.ensureDirectory p = (e, outcome)) : d.GrowsTo e := by
  have hgrows : d.GrowsTo (d.ensureDirectory p).1 := by
    clear h
    fun_induction ensureDirectory d p with
    | case1 d p made hmade => exact growsTo_of_makeDirectory hmade
    | case2 d p after fault hmake hmissing hnames => exact growsTo_of_refused hmake
    | case3 d p after fault hmake hmissing hnames above problem habove ih =>
      rw [habove] at ih
      exact (growsTo_of_refused hmake).trans ih
    | case4 d p after fault hmake hmissing hnames above habove made hmade ih =>
      rw [habove] at ih
      exact ((growsTo_of_refused hmake).trans ih).trans (growsTo_of_makeDirectory hmade)
    | case5 d p after fault hmake hmissing hnames above habove again other hagain hother ih =>
      rw [habove] at ih
      exact ((growsTo_of_refused hmake).trans ih).trans (growsTo_of_refused hagain)
    | case6 d p after fault hmake hmissing hnames above habove again other hagain hother ih =>
      rw [habove] at ih
      exact ((growsTo_of_refused hmake).trans ih).trans (growsTo_of_refused hagain)
    | case7 d p after fault hmake hmissing => exact growsTo_of_refused hmake
  rwa [h] at hgrows

theorem isDirectory_of_ensureDirectory (h : d.ensureDirectory p = (e, none)) :
    e.tree.isDirectory p = true := by
  have hthere : (d.ensureDirectory p).2 = none →
      (d.ensureDirectory p).1.tree.isDirectory p = true := by
    clear h
    intro hnone
    fun_induction ensureDirectory d p with
    | case1 d p made hmade => exact isDirectory_of_makeDirectory hmade
    | case2 => cases hnone
    | case3 => cases hnone
    | case4 d p after fault hmake hmissing hnames above habove made hmade ih =>
      exact isDirectory_of_makeDirectory hmade
    | case5 => cases hnone
    | case6 => exact isDirectory_of_unlessThere hnone
    | case7 => exact isDirectory_of_unlessThere hnone
  rw [h] at hthere
  exact hthere rfl

/-- What stands in the way of a directory is found on a disk that is met on the way to it. -/
theorem exists_refusesDirectory (h : (d.ensureDirectory p).2 = some problem) :
    ∃ last : Disk, d.GrowsTo last ∧ last.tree = (d.ensureDirectory p).1.tree ∧
      last.RefusesDirectory p problem := by
  fun_induction ensureDirectory d p with
  | case1 => cases h
  | case2 d p after fault hmake hmissing hnames =>
    cases h
    exact ⟨d, growsTo_refl d, (tree_of_perform hmake).symm,
      .missing (by rw [hmake]) hmissing (.inl hnames)⟩
  | case3 d p after fault hmake hmissing hnames above other habove ih =>
    rw [habove] at ih
    obtain ⟨last, hgrows, htree, hrefuses⟩ := ih h
    exact ⟨last, (growsTo_of_refused hmake).trans hgrows, htree, hrefuses.above⟩
  | case4 => cases h
  | case5 d p after fault hmake hmissing hnames above habove again other hagain hother ih =>
    cases h
    exact ⟨above, (growsTo_of_refused hmake).trans (growsTo_of_ensureDirectory habove),
      (tree_of_perform hagain).symm,
      .missing (by rw [hagain]) hother (.inr (isDirectory_of_ensureDirectory habove))⟩
  | case6 d p after fault hmake hmissing hnames above habove again other hagain hother ih =>
    obtain ⟨hthere, rfl⟩ := of_unlessThere_eq_some h
    rw [tree_of_perform hagain] at hthere
    exact ⟨above, (growsTo_of_refused hmake).trans (growsTo_of_ensureDirectory habove),
      (tree_of_perform hagain).symm,
      .blocked (by rw [hagain]) (Bool.eq_false_iff.2 hother) hthere⟩
  | case7 d p after fault hmake hmissing =>
    obtain ⟨hthere, rfl⟩ := of_unlessThere_eq_some h
    rw [tree_of_perform hmake] at hthere
    exact ⟨d, growsTo_refl d, (tree_of_perform hmake).symm,
      .blocked (by rw [hmake]) (Bool.eq_false_iff.2 hmissing) hthere⟩

/-- Without refusals, nothing stands in the way of a directory that a tree admits. -/
theorem not_refusesDirectory (hcalm : d.refusals = []) (h : d.tree.Admits w)
    (hp : w.isDirectory p = true) : ¬d.RefusesDirectory p problem := by
  intro hrefuses
  induction hrefuses with
  | above _ ih => exact ih (FileTree.isDirectory_parent hp)
  | @missing p fault hrefused hmissing hparent =>
    rcases FileTree.makeDirectory_of_admits h hp with ⟨made, hmade⟩ | hdirectory | ⟨hlost, hnot⟩
    · rw [makeDirectory, perform_of_ok hcalm hmade] at hrefused
      cases hrefused
    · rw [makeDirectory, perform_of_error hcalm (FileTree.makeDirectory_of_isDirectory hdirectory)]
        at hrefused
      cases hrefused
      cases hmissing
    · rcases hparent with hnames | hthere
      · rw [FileTree.makeDirectory, FileTree.locate, hnames] at hlost
        split at hlost <;> cases hlost
      · rw [hnot] at hthere
        cases hthere
  | @blocked p fault hrefused hmissing hthere =>
    rcases FileTree.makeDirectory_of_admits h hp with ⟨made, hmade⟩ | hdirectory | ⟨hlost, -⟩
    · rw [makeDirectory, perform_of_ok hcalm hmade] at hrefused
      cases hrefused
    · rw [hthere] at hdirectory
      cases hdirectory
    · rw [makeDirectory, perform_of_error hcalm hlost] at hrefused
      cases hrefused
      cases hmissing

theorem ensureDirectory_eq_none_of_admits (hcalm : d.refusals = []) (h : d.tree.Admits w)
    (hp : w.isDirectory p = true) : (d.ensureDirectory p).2 = none := by
  rw [Option.eq_none_iff_forall_ne_some]
  intro problem hproblem
  obtain ⟨last, hgrows, -, hrefuses⟩ := exists_refusesDirectory hproblem
  exact not_refusesDirectory (hgrows.refusals_eq_nil hcalm) (h.of_growsTo hgrows.tree) hp hrefuses

theorem ensureDirectory_of_isDirectory (hcalm : d.refusals = [])
    (h : d.tree.isDirectory p = true) : d.ensureDirectory p = (d, none) := by
  have hmake : d.makeDirectory p = (⟨d.tree, []⟩, some .alreadyExists) :=
    perform_of_error hcalm (FileTree.makeDirectory_of_isDirectory h)
  obtain ⟨tree, refusals⟩ := d
  obtain rfl : refusals = [] := hcalm
  rw [ensureDirectory, hmake]
  exact unlessThere_of_isDirectory h

end Disk

end Maquette
