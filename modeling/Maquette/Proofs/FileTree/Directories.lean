import Maquette.Proofs.FileTree.Path
import Maquette.Proofs.Outcome

/-!
# Making directories

A tree grows if directories are added where nothing was, and making a directory does no
more than that.

Only a file can be in the way of a directory. So a directory can be made, with those above
it, if there is a tree that has it and has no directory in the place of a file of ours.
That tree may be one that a later attempt has made, and this is why such an attempt has no
more success than the first.
-/

namespace Maquette.FileTree

variable {t u v w : FileTree} {p : FilePath} {here l : Location} {name : String}
  {names more : List String} {last : FileFault}

/-- What a name does to lead on: it goes back, or it is a directory that is there. -/
theorem enter_cons_eq_ok_iff :
    t.enter here (name :: names) = .ok l ↔
      name = ".." ∧ t.enter here.dropLast names = .ok l ∨
      name ≠ ".." ∧ Text.fileSize name.toList ≤ nameLimit ∧
        t.node? (here ++ [name]) = some .directory ∧ t.enter (here ++ [name]) names = .ok l := by
  rw [enter]
  by_cases hback : name = ".."
  · simp [hback]
  · rw [if_neg hback]
    by_cases hlong : nameLimit < Text.fileSize name.toList
    · simp [hback, hlong, Nat.not_le_of_lt hlong]
    · rw [if_neg hlong]
      cases t.node? (here ++ [name]) with
      | none => simp [hback]
      | some node =>
        cases node with
        | directory => simp [hback, Nat.le_of_not_lt hlong]
        | file content => simp [hback]

theorem enter_append (t : FileTree) (here : Location) (names more : List String) :
    t.enter here (names ++ more) = t.enter here names >>= fun l => t.enter l more := by
  induction names generalizing here with
  | nil => rfl
  | cons name names ih =>
    rw [List.cons_append, enter, enter]
    split
    · exact ih _
    · split
      · rfl
      · split
        · rfl
        · rfl
        · exact ih _

theorem eq_walk_of_enter (h : t.enter here names = .ok l) : l = walk here names := by
  induction names generalizing here with
  | nil => exact (Except.ok.inj h).symm
  | cons name names ih =>
    rw [walk]
    rcases enter_cons_eq_ok_iff.1 h with ⟨hback, h⟩ | ⟨hname, -, -, h⟩
    · rw [if_pos hback]
      exact ih h
    · rw [if_neg hname]
      exact ih h

/-- Names lead on wherever the directories are kept. -/
theorem enter_mono (hkept : ∀ l, t.node? l = some .directory → u.node? l = some .directory)
    (h : t.enter here names = .ok l) : u.enter here names = .ok l := by
  induction names generalizing here with
  | nil => exact h
  | cons name names ih =>
    rw [enter_cons_eq_ok_iff] at h ⊢
    rcases h with ⟨hback, h⟩ | ⟨hname, hshort, hnode, h⟩
    · exact .inl ⟨hback, ih h⟩
    · exact .inr ⟨hname, hshort, hkept _ hnode, ih h⟩

theorem locate_of_names_eq {above : List String} (hnames : p.names = above ++ [name]) :
    t.locate p last =
      if pathLimit ≤ p.size then .error .nameTooLong
      else t.enter [] above >>= fun here =>
        if name = ".." then .error last
        else if nameLimit < Text.fileSize name.toList then .error .nameTooLong
        else .ok (here ++ [name]) := by
  rw [locate, hnames, List.getLast?_concat, List.dropLast_concat]
  rfl

theorem locate_eq_ok {above : List String} (hsize : p.size < pathLimit)
    (hnames : p.names = above ++ [name]) (henter : t.enter [] above = .ok here)
    (hback : name ≠ "..") (hshort : Text.fileSize name.toList ≤ nameLimit) :
    t.locate p last = .ok (here ++ [name]) := by
  rw [locate_of_names_eq hnames, if_neg (Nat.not_le_of_lt hsize), henter]
  simp only [bind, Except.bind]
  rw [if_neg hback, if_neg (Nat.not_lt_of_le hshort)]

theorem exists_of_locate_eq_ok (h : t.locate p last = .ok l) :
    p.size < pathLimit ∧ ∃ above name here, p.names = above ++ [name] ∧
      t.enter [] above = .ok here ∧ name ≠ ".." ∧ Text.fileSize name.toList ≤ nameLimit ∧
      l = here ++ [name] := by
  rcases List.eq_nil_or_concat p.names with hnames | ⟨above, name, hnames⟩
  · rw [locate, hnames] at h
    split at h <;> cases h
  · rw [List.concat_eq_append] at hnames
    rw [locate_of_names_eq hnames] at h
    by_cases hsize : pathLimit ≤ p.size
    · rw [if_pos hsize] at h
      cases h
    · rw [if_neg hsize] at h
      obtain ⟨here, henter, h⟩ := exists_of_bind_eq_ok h
      by_cases hback : name = ".."
      · rw [if_pos hback] at h
        cases h
      · rw [if_neg hback] at h
        by_cases hlong : nameLimit < Text.fileSize name.toList
        · rw [if_pos hlong] at h
          cases h
        · rw [if_neg hlong] at h
          exact ⟨Nat.lt_of_not_le hsize, above, name, here, hnames, henter, hback,
            Nat.le_of_not_lt hlong, (Except.ok.inj h).symm⟩

/-- The tree does not decide which location a path leads to. -/
theorem eq_location_of_locate (h : t.locate p last = .ok l) : l = p.location := by
  obtain ⟨-, above, name, here, hnames, henter, hback, -, rfl⟩ := exists_of_locate_eq_ok h
  rw [FilePath.location, hnames, walk_append, ← eq_walk_of_enter henter,
    walk_of_notMem (by simpa using Ne.symm hback)]

theorem locate_mono (hkept : ∀ l, t.node? l = some .directory → u.node? l = some .directory)
    {other : FileFault} (h : t.locate p last = .ok l) : u.locate p other = .ok l := by
  obtain ⟨hsize, above, name, here, hnames, henter, hback, hshort, rfl⟩ :=
    exists_of_locate_eq_ok h
  exact locate_eq_ok hsize hnames (enter_mono hkept henter) hback hshort

theorem isDirectory_iff :
    t.isDirectory p = true ↔
      p.size < pathLimit ∧ ∃ l, t.enter [] p.names = .ok l := by
  rw [isDirectory, Bool.and_eq_true, decide_eq_true_iff, exists_eq_ok_iff]

/-- What is above a directory is a directory. -/
theorem isDirectory_parent (h : t.isDirectory p = true) : t.isDirectory p.parent = true := by
  rw [isDirectory_iff] at h ⊢
  obtain ⟨hsize, l, henter⟩ := h
  refine ⟨FilePath.size_parent hsize, ?_⟩
  rcases List.eq_nil_or_concat p.names with hnames | ⟨above, name, hnames⟩
  · exact ⟨[], by rw [FilePath.parent, hnames]; rfl⟩
  · rw [List.concat_eq_append] at hnames
    rw [hnames, enter_append] at henter
    obtain ⟨here, habove, -⟩ := exists_of_bind_eq_ok henter
    exact ⟨here, by rwa [FilePath.parent, hnames, List.dropLast_concat]⟩

theorem isDirectory_parent_of_locate (h : t.locate p last = .ok l) :
    t.isDirectory p.parent = true := by
  obtain ⟨hsize, above, name, here, hnames, henter, -⟩ := exists_of_locate_eq_ok h
  rw [isDirectory_iff]
  refine ⟨FilePath.size_parent hsize, here, ?_⟩
  rwa [FilePath.parent, hnames, List.dropLast_concat]

/-- A path that leads somewhere leads there in every tree that has its directory. -/
theorem locate_of_isDirectory_parent (h : t.locate p last = .ok l)
    (hparent : u.isDirectory p.parent = true) : u.locate p last = .ok l := by
  obtain ⟨hsize, above, name, here, hnames, henter, hback, hshort, rfl⟩ :=
    exists_of_locate_eq_ok h
  obtain ⟨-, here', habove⟩ := isDirectory_iff.1 hparent
  rw [FilePath.parent, hnames, List.dropLast_concat] at habove
  obtain rfl : here' = here := (eq_walk_of_enter habove).trans (eq_walk_of_enter henter).symm
  exact locate_eq_ok hsize hnames habove hback hshort

/-- The second tree has what the first has, and where the first has nothing it may have
directories. -/
def GrowsTo (t u : FileTree) : Prop :=
  ∀ l, u.node? l = t.node? l ∨ t.node? l = none ∧ u.node? l = some .directory

theorem growsTo_refl (t : FileTree) : t.GrowsTo t :=
  fun _ => .inl rfl

theorem GrowsTo.node? (h : t.GrowsTo u) {node : Node} (hnode : t.node? l = some node) :
    u.node? l = some node := by
  rcases h l with hl | ⟨hl, -⟩
  · rw [hl, hnode]
  · rw [hl] at hnode
    cases hnode

theorem GrowsTo.trans (h : t.GrowsTo u) (h' : u.GrowsTo v) : t.GrowsTo v := by
  intro l
  rcases h' l with hl | ⟨hl, hdirectory⟩
  · rw [hl]
    exact h l
  · rcases h l with hl' | ⟨-, hl'⟩
    · exact .inr ⟨by rw [← hl', hl], hdirectory⟩
    · rw [hl'] at hl
      cases hl

theorem growsTo_put_directory (h : t.node? l = none) : t.GrowsTo (t.put l .directory) := by
  have hl : l ≠ [] := by
    rintro rfl
    cases h
  intro other
  by_cases hother : other = l
  · rw [hother]
    exact .inr ⟨h, node?_put_self hl⟩
  · exact .inl (node?_put_of_ne hother)

theorem GrowsTo.isDirectory (h : t.GrowsTo u) (hp : t.isDirectory p = true) :
    u.isDirectory p = true := by
  rw [isDirectory_iff] at hp ⊢
  obtain ⟨hsize, l, henter⟩ := hp
  exact ⟨hsize, l, enter_mono (fun _ => h.node?) henter⟩

theorem exists_of_makeDirectory_eq_ok (h : t.makeDirectory p = .ok u) :
    ∃ l, t.locate p .alreadyExists = .ok l ∧ t.node? l = none ∧ u = t.put l .directory := by
  obtain ⟨l, hl, h⟩ := exists_of_bind_eq_ok h
  refine ⟨l, hl, ?_⟩
  cases hnode : t.node? l with
  | some node =>
    rw [hnode] at h
    cases h
  | none =>
    rw [hnode] at h
    exact ⟨rfl, (Except.ok.inj h).symm⟩

theorem makeDirectory_growsTo (h : t.makeDirectory p = .ok u) : t.GrowsTo u := by
  obtain ⟨l, -, hnode, rfl⟩ := exists_of_makeDirectory_eq_ok h
  exact growsTo_put_directory hnode

theorem isDirectory_of_makeDirectory (h : t.makeDirectory p = .ok u) :
    u.isDirectory p = true := by
  have hgrows := makeDirectory_growsTo h
  obtain ⟨l, hl, -, rfl⟩ := exists_of_makeDirectory_eq_ok h
  obtain ⟨hsize, above, name, here, hnames, henter, hback, hshort, rfl⟩ :=
    exists_of_locate_eq_ok hl
  have hlast : (t.put (here ++ [name]) .directory).enter here [name] = .ok (here ++ [name]) :=
    enter_cons_eq_ok_iff.2 (.inr ⟨hback, hshort, node?_put_self (by simp), rfl⟩)
  rw [isDirectory_iff]
  refine ⟨hsize, here ++ [name], ?_⟩
  rw [hnames, enter_append, enter_mono (fun _ => hgrows.node?) henter]
  exact hlast

/-- The first tree has no file in the place of a directory of the second. -/
def Admits (t w : FileTree) : Prop :=
  ∀ l content, t.node? l = some (.file content) → w.node? l ≠ some .directory

theorem GrowsTo.admits (h : t.GrowsTo w) : t.Admits w := by
  intro l content hfile hdirectory
  rw [h.node? hfile] at hdirectory
  cases hdirectory

theorem Admits.of_growsTo (h : t.Admits w) (hgrows : t.GrowsTo u) : u.Admits w := by
  intro l content hfile
  rcases hgrows l with hl | ⟨-, hl⟩
  · exact h l content (hl ▸ hfile)
  · rw [hl] at hfile
    cases hfile

theorem Admits.enter (h : t.Admits w) (henter : w.enter here names = .ok l) :
    t.enter here names = .ok l ∨ t.enter here names = .error .notFound := by
  induction names generalizing here with
  | nil => exact .inl henter
  | cons name names ih =>
    rw [FileTree.enter]
    rcases enter_cons_eq_ok_iff.1 henter with ⟨hback, henter⟩ | ⟨hback, hshort, hnode, henter⟩
    · rw [if_pos hback]
      exact ih henter
    · rw [if_neg hback, if_neg (Nat.not_lt_of_le hshort)]
      cases hfound : t.node? (here ++ [name]) with
      | none => exact .inr rfl
      | some node =>
        cases node with
        | directory => exact ih henter
        | file content => exact absurd hnode (h _ content hfound)

/-- The three ways to go about a directory that a tree admits: it can be made, or it is
there, or the one above it is missing. -/
theorem makeDirectory_of_admits (h : t.Admits w) (hp : w.isDirectory p = true) :
    (∃ made, t.makeDirectory p = .ok made) ∨ t.isDirectory p = true ∨
      t.makeDirectory p = .error .notFound ∧ t.isDirectory p.parent = false := by
  obtain ⟨hsize, l, henter⟩ := isDirectory_iff.1 hp
  rcases h.enter henter with hthere | hmissing
  · exact .inr (.inl (isDirectory_iff.2 ⟨hsize, l, hthere⟩))
  · rcases List.eq_nil_or_concat p.names with hnames | ⟨above, name, hnames⟩
    · rw [hnames] at hmissing
      cases hmissing
    · rw [List.concat_eq_append] at hnames
      rw [hnames, enter_append] at henter hmissing
      obtain ⟨here, habove, hname⟩ := exists_of_bind_eq_ok henter
      rcases h.enter habove with hthere | hlost
      · rw [hthere] at hmissing
        have hmissing : t.enter here [name] = .error .notFound := hmissing
        rcases enter_cons_eq_ok_iff.1 hname with ⟨rfl, -⟩ | ⟨hback, hshort, hnode, -⟩
        · cases hmissing
        · refine .inl ⟨t.put (here ++ [name]) .directory, ?_⟩
          have hnone : t.node? (here ++ [name]) = none := by
            cases hfound : t.node? (here ++ [name]) with
            | none => rfl
            | some node =>
              rw [FileTree.enter, if_neg hback, if_neg (Nat.not_lt_of_le hshort), hfound]
                at hmissing
              cases node <;> cases hmissing
          rw [makeDirectory, locate_eq_ok hsize hnames hthere hback hshort]
          simp only [bind, Except.bind, hnone]
          rfl
      · refine .inr (.inr ⟨?_, ?_⟩)
        · rw [makeDirectory, locate_of_names_eq hnames, if_neg (Nat.not_le_of_lt hsize), hlost]
          rfl
        · rw [isDirectory, FilePath.parent, hnames, List.dropLast_concat, hlost]
          exact Bool.and_false _

theorem makeDirectory_of_isDirectory (h : t.isDirectory p = true) :
    t.makeDirectory p = .error .alreadyExists := by
  obtain ⟨hsize, l, henter⟩ := isDirectory_iff.1 h
  rcases List.eq_nil_or_concat p.names with hnames | ⟨above, name, hnames⟩
  · rw [makeDirectory, locate, if_neg (Nat.not_le_of_lt hsize), hnames]
    rfl
  · rw [List.concat_eq_append] at hnames
    rw [hnames, enter_append] at henter
    obtain ⟨here, habove, hname⟩ := exists_of_bind_eq_ok henter
    rcases enter_cons_eq_ok_iff.1 hname with ⟨rfl, -⟩ | ⟨hback, hshort, hnode, -⟩
    · rw [makeDirectory, locate_of_names_eq hnames, if_neg (Nat.not_le_of_lt hsize), habove]
      rfl
    · rw [makeDirectory, locate_eq_ok hsize hnames habove hback hshort]
      simp only [bind, Except.bind, hnode]

end Maquette.FileTree
