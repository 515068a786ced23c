import Maquette.FileTree.Basic
import Maquette.Proofs.Text.Pieces

/-!
# Where paths lead

A path leads to the same location in every tree in which it leads anywhere: a name leads
one step on, and the name `..` one step back. So paths below a directory that do not go
back lead to different locations if their names are different.
-/

namespace Maquette

namespace Text

theorem mem_of_mem_intercalate {separator : String} {c : Char} :
    ∀ {texts : List String}, c ∈ (separator.intercalate texts).toList →
      c ∈ separator.toList ∨ ∃ text ∈ texts, c ∈ text.toList
  | [], h => by cases h
  | [text], h => .inr ⟨text, List.mem_cons_self, by rwa [String.intercalate_singleton] at h⟩
  | text :: next :: texts, h => by
    rw [String.intercalate_cons_cons, String.toList_append, String.toList_append] at h
    rcases List.mem_append.1 h with h | h
    · rcases List.mem_append.1 h with h | h
      · exact .inr ⟨text, List.mem_cons_self, h⟩
      · exact .inl h
    · rcases mem_of_mem_intercalate h with h | ⟨other, hother, h⟩
      · exact .inl h
      · exact .inr ⟨other, List.mem_cons_of_mem _ hother, h⟩

theorem utf8Size_of_isReserved {c : Char} (h : isReserved c = true) : c.utf8Size = 4 := by
  have hlarge : ¬c.toNat < halfOffset := fun hlt => by
    rw [isReserved_eq_false_of_lt hlt] at h
    cases h
  have hval : halfOffset ≤ c.val.toNat := Nat.le_of_not_lt hlarge
  have hpast : ∀ bound : UInt32, bound.toNat < halfOffset → ¬c.val ≤ bound := fun bound hbound hle =>
    absurd (UInt32.le_iff_toNat_le.1 hle) (by omega)
  rw [Char.utf8Size, if_neg (hpast _ (by decide)), if_neg (hpast _ (by decide)),
    if_neg (hpast _ (by decide))]

/-- What follows takes nothing away from the bytes of a text. A sign at its end may become
the sign of a character, which then is as large as the sign was. -/
theorem fileSize_le_append (s rest : List Char) : fileSize s ≤ fileSize (s ++ rest) := by
  induction s using symbols.induct with
  | case1 => exact Nat.zero_le _
  | case2 c =>
    cases rest with
    | nil => exact Nat.le_refl _
    | cons d rest =>
      by_cases hsigned : c = literalSign ∧ isReserved d = true
      · obtain ⟨rfl, hd⟩ := hsigned
        have hsign : fileSize [literalSign] = 4 := by decide
        rw [hsign, List.singleton_append, fileSize, symbols_signed hd, List.foldr_cons,
          Symbol.fileSize, utf8Size_of_isReserved hd]
        exact Nat.le_add_right _ _
      · rw [List.singleton_append, fileSize, fileSize, symbols_unsigned hsigned, List.foldr_cons]
        exact Nat.le_add_right _ _
  | case3 c d rest' h ih =>
    obtain ⟨rfl, hd⟩ := h
    simp only [fileSize, List.cons_append, symbols_signed hd, List.foldr_cons] at ih ⊢
    exact Nat.add_le_add_left ih _
  | case4 c d rest' h ih =>
    simp only [fileSize, List.cons_append, symbols_unsigned h, List.foldr_cons] at ih ⊢
    exact Nat.add_le_add_left ih _

end Text

namespace FileTree

/-- The location that names lead to from another one, if they lead anywhere. -/
def walk : Location → List String → Location
  | here, [] => here
  | here, name :: rest =>
    if name = ".." then walk here.dropLast rest else walk (here ++ [name]) rest

theorem walk_append (here : Location) (names more : List String) :
    walk here (names ++ more) = walk (walk here names) more := by
  induction names generalizing here with
  | nil => rfl
  | cons name names ih =>
    rw [List.cons_append, walk, walk]
    split
    · exact ih _
    · exact ih _

theorem walk_of_notMem {here : Location} {names : List String} (h : ".." ∉ names) :
    walk here names = here ++ names := by
  induction names generalizing here with
  | nil => exact here.append_nil.symm
  | cons name names ih =>
    rw [List.mem_cons, not_or] at h
    rw [walk, if_neg (Ne.symm h.1), ih h.2, List.append_assoc, List.singleton_append]

end FileTree

namespace FilePath

/-- The location that a path leads to, if it leads anywhere. -/
def location (p : FilePath) : Location :=
  FileTree.walk [] p.names

theorem location_child {directory : FilePath} {name : String} (h : ".." ∉ namesOf name) :
    (directory.child name).location = directory.location ++ namesOf name := by
  rw [location, child, FileTree.walk_append, FileTree.walk_of_notMem h, ← location]

/-- The text of a path has no characters that the path was not written with, but for
slashes and the name of the current directory. -/
theorem mem_of_mem_text {written : String} {c : Char}
    (h : c ∈ (ofText written).text.toList) : c = '/' ∨ c = '.' ∨ c ∈ written.toList := by
  rw [text] at h
  split at h
  · exact .inr (.inl (by simpa using h))
  · rw [String.toList_append] at h
    rcases List.mem_append.1 h with h | h
    · refine .inl ?_
      simp only [ofText, rootOf] at h
      split at h
      · cases h
      · split at h <;> simpa using h
    · rcases Text.mem_of_mem_intercalate h with h | ⟨name, hname, h⟩
      · exact .inl (by simpa using h)
      · obtain ⟨piece, hpiece, rfl⟩ := List.mem_map.1 (List.mem_filter.1 hname).1
        rw [String.toList_ofList] at h
        exact .inr (.inr (Text.of_mem_pieces hpiece h).1)

/-- The text of the directory of a path is the beginning of the text of the path, unless
it is the current directory. -/
theorem text_parent_prefix (p : FilePath) :
    p.parent.text = "." ∨ p.parent.text.toList <+: p.text.toList := by
  obtain ⟨root, names⟩ := p
  rcases List.eq_nil_or_concat names with rfl | ⟨above, name, rfl⟩
  · exact .inr (List.prefix_refl _)
  · rw [List.concat_eq_append, parent, List.dropLast_concat, text, text]
    split
    · exact .inl rfl
    · refine .inr ?_
      rw [if_neg (by simp), String.toList_append, String.toList_append,
        List.prefix_append_right_inj]
      cases above with
      | nil => exact List.nil_prefix
      | cons first above =>
        rw [String.intercalate_append_of_ne_nil (List.cons_ne_nil _ _) (List.cons_ne_nil _ _),
          String.append_assoc, String.toList_append]
        exact List.prefix_append _ _

theorem size_parent {p : FilePath} (h : p.size < FileTree.pathLimit) :
    p.parent.size < FileTree.pathLimit := by
  rcases p.text_parent_prefix with hhere | ⟨rest, hrest⟩
  · rw [size, hhere]
    decide
  · rw [size, ← hrest] at h
    exact Nat.lt_of_le_of_lt (Text.fileSize_le_append _ _) h

end FilePath

end Maquette
