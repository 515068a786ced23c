import Maquette.Color
import Maquette.Geometry
import Maquette.Proofs.Dart.Legible
import Maquette.Style

/-!
# Numbers, colours and styles are plain code

The values that vary in generated code besides displayed texts: numbers, colours,
sizes of type, insets, corners, and positions. Whatever a builder saved, they are
written with digits, points, signs and a few letters, inside constant text, so they
cannot close a bracket or begin a literal.
-/

namespace Maquette

namespace Dart

/-- What numbers and colour channels are written with besides digits: points, signs,
and the letters of hexadecimal digits, of exponents, and of what is no number. -/
def wordMarks : List Char := ".-+xABCDEFaefin".toList

/-- A character of a number or of a colour channel. -/
def isWordChar (c : Char) : Bool :=
  c.isDigit || wordMarks.contains c

theorem ne_of_isWordChar {c d : Char} (h : isWordChar c = true) (hd : isWordChar d = false) :
    c ≠ d := by
  rintro rfl
  rw [h] at hd
  exact absurd hd (by decide)

theorem isLineBoundary_of_isWordChar {c : Char} (h : isWordChar c = true) :
    Text.isLineBoundary c = false := by
  refine Bool.eq_false_iff.2 fun hline => ?_
  have hboundary : (10 ≤ c.toNat ∧ c.toNat ≤ 13) ∨ (28 ≤ c.toNat ∧ c.toNat ≤ 30) ∨
      c.toNat = 133 ∨ c.toNat = 8232 ∨ c.toNat = 8233 := by
    simp [Text.isLineBoundary, Text.lineBoundaries, CharSet.contains] at hline
    omega
  have hnone : ∀ n ∈ [10, 11, 12, 13, 28, 29, 30, 133, 8232, 8233],
      isWordChar (Char.ofNat n) = false := by decide
  have hcode := hnone c.toNat (by
    simp only [List.mem_cons, List.not_mem_nil, or_false]
    omega)
  rw [Char.ofNat_toNat, h] at hcode
  exact absurd hcode (by decide)

theorem bracketsAfter_of_isWordChar {c : Char} (h : isWordChar c = true) (pending : List Char) :
    bracketsAfter pending (.char c) = some pending := by
  have hne (d : Char) (hd : isWordChar d = false) : c ≠ d := ne_of_isWordChar h hd
  have hopening : closing? c = none := by
    rw [closing?, if_neg (hne _ (by decide)), if_neg (hne _ (by decide)),
      if_neg (hne _ (by decide))]
  have hclosing : isClosing c = false := by
    rw [isClosing, beq_false_of_ne (hne _ (by decide)), beq_false_of_ne (hne _ (by decide)),
      beq_false_of_ne (hne _ (by decide))]
    rfl
  simp [bracketsAfter, hopening, hclosing]

theorem isPlain_of_all {s : List Char} (h : s.all isWordChar = true) : isPlain s = true := by
  induction s with
  | nil => rfl
  | cons c s ih =>
    rw [List.all_cons, Bool.and_eq_true] at h
    have hs := ih h.2
    rw [isPlain, Bool.and_eq_true, beq_iff_eq] at hs ⊢
    have hcode : isCodeChar c = true := by
      simp [isCodeChar, isLineBoundary_of_isWordChar h.1,
        ne_of_isWordChar (d := '\'') h.1 (by decide),
        ne_of_isWordChar (d := '\x22') h.1 (by decide)]
    have hslash : (c != '/') = true := bne_iff_ne.2 (ne_of_isWordChar h.1 (by decide))
    constructor
    · change (isCodeChar c && (c != '/' || dividesBy (chars s)) && wellFormed (chars s)) = true
      rw [hcode, hslash, hs.1]
      rfl
    · change (bracketsAfter [] (.char c)).bind _ = some []
      rw [bracketsAfter_of_isWordChar h.1]
      exact hs.2

theorem plain_of_all {text : String} (h : text.toList.all isWordChar = true) : Plain text :=
  Legible.of_isPlain (isPlain_of_all h)

/-- The text is code as it stands, and takes the brackets that are open in front
of it to those that are open after it. -/
structure Opens (text : String) (pending after : List Char) : Prop where
  wellFormed : wellFormed (chars text.toList) = true
  brackets_eq : brackets pending (chars text.toList) = some after

theorem opens_ofList {s pending after : List Char}
    (h : (wellFormed (chars s) && brackets pending (chars s) == some after) = true) :
    Opens (String.ofList s) pending after := by
  rw [Bool.and_eq_true, beq_iff_eq] at h
  constructor
  · rw [String.toList_ofList, h.1]
  · rw [String.toList_ofList, h.2]

theorem Opens.append {text more : String} {pending between after : List Char}
    (htext : Opens text pending between) (hmore : Opens more between after) :
    Opens (text ++ more) pending after := by
  constructor
  · rw [String.toList_append, chars_append]
    exact wellFormed_append htext.wellFormed hmore.wellFormed
  · rw [String.toList_append, chars_append, brackets_append, htext.brackets_eq]
    exact hmore.brackets_eq

/-- The two texts are code, and the second one closes what the first one opens. -/
def isWrapping (left right : List Char) : Bool :=
  wellFormed (chars left) && wellFormed (chars right) &&
    ((brackets [] (chars left)).bind fun pending => brackets pending (chars right)) == some []

theorem Plain.wrapped {left right : List Char} {text : String} (htext : Plain text)
    (h : isWrapping left right = true) :
    Plain (String.ofList left ++ text ++ String.ofList right) := by
  simp only [isWrapping, Bool.and_eq_true, beq_iff_eq] at h
  obtain ⟨⟨hleft, hright⟩, hbrackets⟩ := h
  rw [Plain, String.toList_append, String.toList_append, String.toList_ofList, String.toList_ofList]
  refine ⟨written_chars _, ?_, ?_⟩
  · rw [chars_append, chars_append]
    exact wellFormed_append (wellFormed_append hleft htext.wellFormed) hright
  · refine brackets_eq_of_balanced ?_
    rw [chars_append, chars_append, brackets_append, brackets_append]
    obtain ⟨pending, hopen, hclose⟩ := Option.bind_eq_some_iff.1 hbrackets
    rw [hopen, Option.bind_some, htext.closed, Option.bind_some, hclose]

end Dart

open Dart

theorem all_isWordChar_decimalDigits (n : Nat) : (decimalDigits n).all isWordChar = true := by
  rw [List.all_eq_true]
  intro c hc
  have hdigit : c.isDigit = true := Nat.isDigit_of_mem_toDigits (by decide) (by decide) hc
  rw [isWordChar, hdigit, Bool.true_or]

theorem all_isWordChar_replicate (n : Nat) : (List.replicate n '0').all isWordChar = true := by
  rw [List.all_replicate]
  split
  · rfl
  · decide

theorem all_isWordChar_integerText (n : Int) : (integerText n).toList.all isWordChar = true := by
  rw [integerText, String.toList_ofList, List.all_append, all_isWordChar_decimalDigits]
  split <;> rfl

namespace Decimal

theorem all_isWordChar_positional {digits : List Char} (h : digits.all isWordChar = true)
    (whole : Int) : (positional digits whole).all isWordChar = true := by
  have hpart (l : List Char) (hl : l ⊆ digits) : l.all isWordChar = true :=
    List.all_eq_true.2 fun c hc => List.all_eq_true.1 h c (hl hc)
  unfold positional
  split
  · rw [List.all_cons, List.all_cons, List.all_append, all_isWordChar_replicate, h]
    rfl
  · dsimp only
    split
    · rw [List.all_append, List.all_append, h, all_isWordChar_replicate]
      rfl
    · rw [List.all_append, List.all_cons, hpart _ (List.take_subset _ _),
        hpart _ (List.drop_subset _ _)]
      rfl

theorem all_isWordChar_oneBeforePoint {digits : List Char} (h : digits.all isWordChar = true) :
    (oneBeforePoint digits).all isWordChar = true := by
  unfold oneBeforePoint
  split
  · rfl
  · exact h
  · rw [List.all_cons] at h
    rw [List.all_cons, List.all_cons, show isWordChar '.' = true from rfl, Bool.true_and, h]

theorem all_isWordChar_exponentText (width : Nat) (e : Int) :
    (exponentText width e).all isWordChar = true := by
  rw [exponentText, List.all_cons, List.all_append, all_isWordChar_replicate,
    all_isWordChar_decimalDigits]
  split <;> rfl

theorem all_isWordChar_written (format : Notation) (d : Decimal) :
    (d.written format).all isWordChar = true := by
  have hdigits := all_isWordChar_decimalDigits d.coefficient
  unfold written
  dsimp only
  split
  · decide
  · split
    · exact all_isWordChar_positional hdigits _
    · rw [List.all_append, List.all_cons, all_isWordChar_oneBeforePoint hdigits,
        all_isWordChar_exponentText]
      rfl

end Decimal

namespace Binary64

theorem all_isWordChar_text (x : Binary64) : x.text.toList.all isWordChar = true := by
  have hsign (s : Bool) : (signText s).all isWordChar = true := by cases s <;> rfl
  cases x with
  | finite s m =>
    rw [text, String.toList_ofList, List.all_append, hsign, Decimal.all_isWordChar_written]
    rfl
  | infinite s =>
    rw [text, String.toList_append, String.toList_ofList, List.all_append, hsign]
    decide
  | nan => decide

theorem all_isWordChar_literal (x : Binary64) : x.literal.toList.all isWordChar = true := by
  unfold literal
  split
  · exact all_isWordChar_integerText _
  · exact x.all_isWordChar_text

theorem all_isWordChar_fractionLiteral (x : Binary64) :
    x.fractionLiteral.toList.all isWordChar = true := by
  unfold fractionLiteral
  split
  · rw [String.toList_append, List.all_append, all_isWordChar_integerText]
    decide
  · exact x.all_isWordChar_text

@[simp] theorem plain_literal (x : Binary64) : Plain x.literal :=
  plain_of_all x.all_isWordChar_literal

@[simp] theorem plain_fractionLiteral (x : Binary64) : Plain x.fractionLiteral :=
  plain_of_all x.all_isWordChar_fractionLiteral

end Binary64

namespace Color

theorem all_isWordChar_channelText (c : UInt8) : (channelText c).all isWordChar = true := by
  have hall : ∀ n < 256, ((Text.hex 2 n).map Char.toUpper).all isWordChar = true := by
    decide +kernel
  exact hall c.toNat c.toNat_lt

@[simp] theorem plain_code (c : Color) : Plain c.code := by
  cases c with
  | transparent => exact plain_ofList (by decide)
  | black => exact plain_ofList (by decide)
  | white => exact plain_ofList (by decide)
  | argb a r g b =>
    refine Plain.wrapped (plain_of_all ?_) (by decide)
    simp only [String.toList_ofList, List.all_append, all_isWordChar_channelText, Bool.and_self]

end Color

namespace Icon

theorem plain_of_mem_glyphs {name glyph : String} (h : (name, glyph) ∈ glyphs) : Plain glyph := by
  have hall : ∀ glyph ∈ glyphs, Plain glyph.2 := by
    simp only [glyphs, List.forall_mem_cons]
    and_intros
    all_goals first
      | exact plain_ofList (by decide)
      | exact fun _ h => absurd h List.not_mem_nil
  exact hall (name, glyph) h

@[simp] theorem plain_glyphOf (value : Json) : Plain (glyphOf value) := by
  have hunknown : Plain unknownGlyph := plain_ofList (by decide)
  cases value with
  | string name =>
    rw [glyphOf]
    cases h : glyphs.lookup (Text.key name) with
    | none => exact hunknown
    | some glyph =>
      obtain ⟨before, after, hglyphs, -⟩ := List.lookup_eq_some_iff.1 h
      have hmem : (Text.key name, glyph) ∈ glyphs := by simp [hglyphs]
      exact plain_of_mem_glyphs hmem
  | _ => exact hunknown

end Icon

namespace BoxFit

@[simp] theorem plain_code (fit : BoxFit) : Plain fit.code := by
  cases fit <;> exact plain_ofList (by decide)

end BoxFit

namespace TextAlign

@[simp] theorem plain_code (align : TextAlign) : Plain align.code := by
  cases align <;> exact plain_ofList (by decide)

end TextAlign

namespace Insets

/-- The amounts of insets stand between the names of their sides. -/
theorem code_symmetric (horizontal vertical : Binary64) :
    (symmetric horizontal vertical).code = "EdgeInsets.symmetric(horizontal: " ++
      (horizontal.literal ++ ", vertical: " ++ vertical.literal) ++ ")" := by
  unfold code
  dsimp only
  rw [← String.append_assoc, ← String.append_assoc]

@[simp] theorem plain_code (insets : Insets) : Plain insets.code := by
  cases insets with
  | all amount => exact amount.plain_literal.wrapped (by decide)
  | symmetric horizontal vertical =>
    have hbetween : Plain ", vertical: " := plain_ofList (by decide)
    have hinside := (horizontal.plain_literal.append hbetween).append vertical.plain_literal
    rw [code_symmetric]
    exact hinside.wrapped (by decide)

end Insets

namespace FontSize

@[simp] theorem plain_code (size : FontSize) : Plain size.code := by
  cases size with
  | fixed points => exact points.plain_literal
  | ofWidth fraction => exact (plain_ofList (by decide)).append fraction.plain_literal

end FontSize

@[simp] theorem plain_cornerCode (radius : Binary64) : Plain (cornerCode radius) :=
  radius.plain_literal.wrapped (by decide)

namespace Extent

@[simp] theorem plain_code (e : Extent) : Plain e.code := by
  unfold code
  split
  · exact e.value.plain_fractionLiteral
  · exact (plain_ofList (by decide)).append e.value.plain_literal
  · exact (plain_ofList (by decide)).append e.value.plain_literal
  · exact (e.value.plain_fractionLiteral.append (plain_ofList (by decide))).append
      (plain_ofList (by decide))
  · exact (e.value.plain_fractionLiteral.append (plain_ofList (by decide))).append
      (plain_ofList (by decide))

end Extent

end Maquette
