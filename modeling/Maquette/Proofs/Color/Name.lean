import Maquette.Color
import Maquette.Proofs.Text.Hex

/-!
# The names of the colours

A text names a colour in hexadecimal digits if it is hash signs and a row of three, six or
eight digits, with white space around them. Of the other texts, the blank ones and the
word for the transparent colour name that one, and the rest is black.
-/

namespace Maquette

namespace Color

open Text

variable {s w : List Char}

/-! ## Rows of digits -/

theorem ofHex_of_all (hw : w.all isHexDigit = true) :
    ofHex w = ofDigits (w.map fun c => (hexValue? c).getD 0) := by
  rw [ofHex, mapM_hexValue?, if_pos hw]

theorem ofHex_of_not_all (hw : w.all isHexDigit = false) : ofHex w = black := by
  rw [ofHex, mapM_hexValue?, hw]
  rfl

/-- Three, six or eight hexadecimal digits. -/
def IsHexRow (w : List Char) : Prop :=
  w.all isHexDigit = true ∧ (w.length = 3 ∨ w.length = 6 ∨ w.length = 8)

theorem ofDigits_cases (digits : List Nat) :
    ((digits.length = 3 ∨ digits.length = 6 ∨ digits.length = 8) ∧
        ∃ a r g b, ofDigits digits = argb a r g b) ∨
      (¬(digits.length = 3 ∨ digits.length = 6 ∨ digits.length = 8) ∧ ofDigits digits = black) := by
  unfold ofDigits
  split
  · exact .inl ⟨.inl rfl, _, _, _, _, rfl⟩
  · exact .inl ⟨.inr (.inl rfl), _, _, _, _, rfl⟩
  · exact .inl ⟨.inr (.inr rfl), _, _, _, _, rfl⟩
  · next hthree hsix height =>
    refine .inr ⟨?_, rfl⟩
    rintro (h | h | h)
    · match digits, h with
      | [_, _, _], _ => exact hthree _ _ _ rfl
    · match digits, h with
      | [_, _, _, _, _, _], _ => exact hsix _ _ _ _ _ _ rfl
    · match digits, h with
      | [_, _, _, _, _, _, _, _], _ => exact height _ _ _ _ _ _ _ _ rfl

theorem ofHex_cases (w : List Char) :
    (IsHexRow w ∧ ∃ a r g b, ofHex w = argb a r g b) ∨ (¬IsHexRow w ∧ ofHex w = black) := by
  by_cases hw : w.all isHexDigit = true
  · rw [ofHex_of_all hw]
    have h := ofDigits_cases (w.map fun c => (hexValue? c).getD 0)
    rw [List.length_map] at h
    rcases h with ⟨hlength, hargb⟩ | ⟨hlength, hblack⟩
    · exact .inl ⟨⟨hw, hlength⟩, hargb⟩
    · exact .inr ⟨fun h => hlength h.2, hblack⟩
  · exact .inr ⟨fun h => hw h.1, ofHex_of_not_all (Bool.eq_false_iff.2 hw)⟩

/-! ## Names -/

/-- The name of the transparent colour, or none. -/
def IsTransparentName (name : List Char) : Prop :=
  name = [] ∨ lower name = "transparent".toList

theorem ofText_of_transparent (h : IsTransparentName (trim s)) : ofText s = transparent := by
  rw [ofText]
  exact if_pos (h.imp List.isEmpty_iff.2 id)

/-- A name behind a hash sign is not the name of the transparent colour. -/
theorem not_isTransparentName_cons (rest : List Char) : ¬IsTransparentName ('#' :: rest) := by
  rintro (hempty | hword)
  · cases hempty
  · rw [lower, lowerAfter] at hword
    simp [lowerChar] at hword

theorem ofText_of_head {rest : List Char} (h : trim s = '#' :: rest) :
    ofText s = ofHex (rest.dropWhile (· == '#')) := by
  rw [ofText, h, if_neg, if_pos (show ('#' :: rest).head? = some '#' from rfl)]
  · rfl
  · exact fun hname => not_isTransparentName_cons rest (hname.imp List.isEmpty_iff.1 id)

theorem ofText_of_not_head (hhead : (trim s).head? ≠ some '#')
    (h : ¬IsTransparentName (trim s)) : ofText s = black := by
  rw [ofText, if_neg fun hname => h (hname.imp List.isEmpty_iff.1 id)]
  exact if_neg hhead

/-- The digits are what is left behind the hash signs. -/
theorem dropWhile_signs_append (hw : w.all isHexDigit = true) (n : Nat) :
    (List.replicate n '#' ++ w).dropWhile (· == '#') = w := by
  rw [List.dropWhile_append_of_pos (by simp)]
  cases w with
  | nil => rfl
  | cons c rest =>
    refine List.dropWhile_cons_of_neg ?_
    rw [beq_iff_eq]
    rintro rfl
    exact absurd (List.all_eq_true.1 hw '#' List.mem_cons_self) (by decide)

/-- The text of a colour in hexadecimal digits: hash signs and a row of digits. -/
def IsHexName (name : List Char) : Prop :=
  ∃ n w, name = List.replicate (n + 1) '#' ++ w ∧ IsHexRow w

theorem isHexName_cons_iff {rest : List Char} :
    IsHexName ('#' :: rest) ↔ IsHexRow (rest.dropWhile (· == '#')) := by
  constructor
  · rintro ⟨n, w, hname, hw⟩
    rw [List.replicate_succ, List.cons_append] at hname
    rw [List.tail_eq_of_cons_eq hname, dropWhile_signs_append hw.1]
    exact hw
  · intro hw
    have hsigns :
        rest.takeWhile (· == '#') = List.replicate (rest.takeWhile (· == '#')).length '#' :=
      List.eq_replicate_of_mem fun c hc => beq_iff_eq.1 (List.all_eq_true.1 List.all_takeWhile c hc)
    refine ⟨(rest.takeWhile (· == '#')).length, rest.dropWhile (· == '#'), ?_, hw⟩
    rw [List.replicate_succ, List.cons_append, ← hsigns, List.takeWhile_append_dropWhile]

theorem head?_of_isHexName (h : IsHexName s) : s.head? = some '#' := by
  obtain ⟨n, w, rfl, -⟩ := h
  rfl

/-- The colour of a text, by the way its name is written. -/
theorem ofText_cases (s : List Char) :
    (IsHexName (trim s) ∧ ¬IsTransparentName (trim s) ∧ ∃ a r g b, ofText s = argb a r g b) ∨
      (¬IsHexName (trim s) ∧ IsTransparentName (trim s) ∧ ofText s = transparent) ∨
      (¬IsHexName (trim s) ∧ ¬IsTransparentName (trim s) ∧ ofText s = black) := by
  by_cases hhead : (trim s).head? = some '#'
  · obtain ⟨rest, hrest⟩ := List.head?_eq_some_iff.1 hhead
    have htransparent := not_isTransparentName_cons rest
    rw [ofText_of_head hrest, hrest, isHexName_cons_iff]
    rcases ofHex_cases (rest.dropWhile (· == '#')) with ⟨hrow, hargb⟩ | ⟨hrow, hblack⟩
    · exact .inl ⟨hrow, htransparent, hargb⟩
    · exact .inr (.inr ⟨hrow, htransparent, hblack⟩)
  · have hhex : ¬IsHexName (trim s) := mt head?_of_isHexName hhead
    by_cases h : IsTransparentName (trim s)
    · exact .inr (.inl ⟨hhex, h, ofText_of_transparent h⟩)
    · exact .inr (.inr ⟨hhex, h, ofText_of_not_head hhead h⟩)

theorem ofValue_string (text : String) : ofValue (.string text) = ofText text.toList := rfl

theorem ofValue_cases (value : Json) :
    ofValue value = transparent ∨ ofValue value = black ∨
      ∃ a r g b, ofValue value = argb a r g b := by
  have htext (s : List Char) :
      ofText s = transparent ∨ ofText s = black ∨ ∃ a r g b, ofText s = argb a r g b := by
    rcases ofText_cases s with ⟨-, -, h⟩ | ⟨-, -, h⟩ | ⟨-, -, h⟩
    · exact .inr (.inr h)
    · exact .inl h
    · exact .inr (.inl h)
  cases value with
  | null => exact .inl rfl
  | _ => exact htext _

theorem isHexCode_iff (c : Color) :
    "Color(0x".toList <+: c.code.toList ↔ ∃ a r g b, c = argb a r g b := by
  cases c with
  | transparent => exact iff_of_false (by decide) (by simp)
  | black => exact iff_of_false (by decide) (by simp)
  | white => exact iff_of_false (by decide) (by simp)
  | argb a r g b =>
    refine iff_of_true ?_ ⟨a, r, g, b, rfl⟩
    rw [code, String.toList_append, String.toList_append, List.append_assoc]
    exact List.prefix_append _ _

theorem code_argb_ne {a r g b : UInt8} {name : String} (h : ¬"Color(0x".toList <+: name.toList) :
    (argb a r g b).code ≠ name := by
  rintro rfl
  exact h ((isHexCode_iff _).2 ⟨a, r, g, b, rfl⟩)

theorem code_eq_transparent_iff (c : Color) : c.code = "Colors.transparent" ↔ c = transparent := by
  cases c with
  | transparent => exact iff_of_true rfl rfl
  | black => exact iff_of_false (by decide) Color.noConfusion
  | white => exact iff_of_false (by decide) Color.noConfusion
  | argb a r g b => exact iff_of_false (code_argb_ne (by decide)) Color.noConfusion

theorem code_eq_black_iff (c : Color) : c.code = "Colors.black" ↔ c = black := by
  cases c with
  | transparent => exact iff_of_false (by decide) Color.noConfusion
  | black => exact iff_of_true rfl rfl
  | white => exact iff_of_false (by decide) Color.noConfusion
  | argb a r g b => exact iff_of_false (code_argb_ne (by decide)) Color.noConfusion

/-- The grammar of the colours: hash signs and a row of digits for a colour in
hexadecimal digits, with white space around them, and black for everything that is
neither this nor a name of the transparent colour. -/
theorem ofValue_string_grammar (text : String) :
    ("Color(0x".toList <+: (ofValue (.string text)).code.toList ↔ IsHexName (trim text.toList)) ∧
      ((ofValue (.string text)).code = "Colors.transparent" ↔
        IsTransparentName (trim text.toList)) ∧
      ((ofValue (.string text)).code = "Colors.black" ↔
        ¬IsHexName (trim text.toList) ∧ ¬IsTransparentName (trim text.toList)) := by
  rw [isHexCode_iff, code_eq_transparent_iff, code_eq_black_iff, ofValue_string]
  rcases ofText_cases text.toList with ⟨hhex, htransparent, a, r, g, b, hs⟩ |
    ⟨hhex, htransparent, hs⟩ | ⟨hhex, htransparent, hs⟩
  · simp [hs, hhex, htransparent]
  · simp [hs, hhex, htransparent]
  · simp [hs, hhex, htransparent]

/-- A second hash sign does not make a text black. -/
theorem hexCode_doubledSign :
    ¬∀ text : String, "Color(0x".toList <+: (ofValue (.string text)).code.toList →
      ∃ w, trim text.toList = '#' :: w ∧ IsHexRow w := by
  intro h
  obtain ⟨w, hname, hw, -⟩ := h "##fff" (by decide)
  have htrim : trim "##fff".toList = "##fff".toList := by decide
  obtain rfl : "#fff".toList = w := List.tail_eq_of_cons_eq (htrim.symm.trans hname)
  exact absurd hw (by decide)

end Color

end Maquette
