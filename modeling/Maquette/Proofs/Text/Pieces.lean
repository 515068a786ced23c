import Maquette.Text.Blank

/-!
# The pieces of a text

The pieces between certain characters have none of these characters, and all of their
characters are from the text. Cutting goes on behind such a character as at the start of
a text, and what stands in front of the first one only belongs to the first piece.
-/

namespace Maquette.Text

variable {p : Char → Bool} {s t piece : List Char} {c : Char}

theorem exists_pieces_eq_cons (p : Char → Bool) (s : List Char) :
    ∃ first more, pieces p s = first :: more :=
  List.exists_cons_of_ne_nil (pieces_ne_nil p s)

theorem of_mem_pieces (hpiece : piece ∈ pieces p s) (hc : c ∈ piece) : c ∈ s ∧ p c = false := by
  induction s generalizing piece with
  | nil =>
    rw [pieces, List.mem_singleton] at hpiece
    rw [hpiece] at hc
    cases hc
  | cons d s ih =>
    have hrest {piece : List Char} (hpiece : piece ∈ pieces p s) (hc : c ∈ piece) :
        c ∈ d :: s ∧ p c = false :=
      (ih hpiece hc).imp_left (List.mem_cons_of_mem d)
    rw [pieces] at hpiece
    split at hpiece
    · rcases List.mem_cons.1 hpiece with rfl | hpiece
      · cases hc
      · exact hrest hpiece hc
    · next hd =>
      -- The first character belongs to the first piece of the rest.
      obtain ⟨first, more, hpieces⟩ := exists_pieces_eq_cons p s
      rw [hpieces] at hpiece hrest
      rcases List.mem_cons.1 hpiece with rfl | hmore
      · rcases List.mem_cons.1 hc with rfl | hfirst
        · exact ⟨List.mem_cons_self, Bool.eq_false_iff.2 hd⟩
        · exact hrest List.mem_cons_self hfirst
      · exact hrest (List.mem_cons_of_mem _ hmore) hc

/-- A text without the characters in front belongs to the first piece. -/
theorem pieces_append_of_all (hs : ∀ c ∈ s, p c = false) {first : List Char}
    {more : List (List Char)} (ht : pieces p t = first :: more) :
    pieces p (s ++ t) = (s ++ first) :: more := by
  induction s with
  | nil => exact ht
  | cons c s ih =>
    obtain ⟨hc, hs⟩ := List.forall_mem_cons.1 hs
    rw [List.cons_append, pieces, if_neg (by simp [hc]), ih hs]
    rfl

theorem pieces_of_all (hs : ∀ c ∈ s, p c = false) : pieces p s = [s] := by
  simpa using pieces_append_of_all hs (t := []) rfl

/-- Behind one of the characters the text is cut on its own. -/
theorem pieces_append_cons (hc : p c = true) (s t : List Char) :
    pieces p (s ++ c :: t) = pieces p s ++ pieces p t := by
  induction s with
  | nil => simp [pieces, hc]
  | cons d s ih =>
    obtain ⟨first, more, hfirst⟩ := exists_pieces_eq_cons p s
    rw [List.cons_append, pieces, pieces, ih, hfirst]
    split <;> rfl

theorem tail_pieces_eq_nil_iff : (pieces p s).tail = [] ↔ ∀ c ∈ s, p c = false := by
  rw [← List.length_eq_zero_iff, List.length_tail, length_pieces, Nat.add_sub_cancel,
    List.countP_eq_zero]
  simp

end Maquette.Text
