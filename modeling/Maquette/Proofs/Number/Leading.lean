import Maquette.Proofs.Number.Digits
import Maquette.Proofs.Number.Grammar
import Maquette.Proofs.Text.Trimmed

/-!
# The number that a text begins with

Among the beginnings of a text that are white space and a number there is a longest one,
and that is what the scanner takes: whatever number the text begins with, the scanner
goes at least as far. A number has no white space and no underscore in it, so the strict
reading of whole numbers takes each of these beginnings as well, unless an information
separator is in the white space.
-/

namespace Maquette

open Text

namespace Number

variable {s p q u rest : List Char} {d e : Decimal} {c : Char}

/-- The longest beginning of a text that is white space and a number. -/
structure IsLeading (s p : List Char) (d : Decimal) : Prop where
  begins : p <+: s
  isNumber : IsSpacedNumber p d
  longest : ∀ q e, q <+: s → IsSpacedNumber q e → q.length ≤ p.length

/-! ## The characters of a number -/

/-- A character of a number. -/
def isNumberChar (c : Char) : Bool :=
  isSignChar c || isMantissaChar c || isMark c

theorem isNumberChar_of_isDigit (hc : isDigit c = true) : isNumberChar c = true := by
  simp [isNumberChar, isMantissaChar, hc]

theorem isNumberChar_cases (hc : isNumberChar c = true) :
    isDigit c = true ∨ c ∈ ['+', '-', '.', 'e', 'E'] := by
  simp only [isNumberChar, isSignChar, isMantissaChar, isMark, Bool.or_eq_true, beq_iff_eq] at hc
  simp only [List.mem_cons, List.not_mem_nil, or_false]
  tauto

theorem isBlank_of_isNumberChar (hc : isNumberChar c = true) : isBlank c = false := by
  rcases isNumberChar_cases hc with hdigit | hother
  · exact isBlank_of_isDigit hdigit
  · have hothers : ['+', '-', '.', 'e', 'E'].all (isBlank · == false) = true := by decide
    exact eq_of_beq (List.all_eq_true.1 hothers c hother)

theorem ne_underscore_of_isNumberChar (hc : isNumberChar c = true) : c ≠ '_' := by
  rintro rfl
  exact absurd hc (by decide)

theorem all_isNumberChar_digits (h : p.all isDigit = true) : p.all isNumberChar = true := by
  rw [List.all_eq_true] at h ⊢
  exact fun c hc => isNumberChar_of_isDigit (h c hc)

theorem all_isNumberChar_sign {negative : Bool} (h : IsSign p negative) :
    p.all isNumberChar = true := by
  cases h <;> decide

theorem IsNumber.all_isNumberChar (h : IsNumber u d) : u.all isNumberChar = true := by
  obtain ⟨hsign, hmantissa, hexponent⟩ := h
  have hpoint : isNumberChar '.' = true := by decide
  rw [List.all_append, List.all_append, all_isNumberChar_sign hsign, Bool.true_and,
    Bool.and_eq_true]
  constructor
  · cases hmantissa with
    | whole hw => exact all_isNumberChar_digits hw.all_isDigit
    | pointed hw hf =>
      simp [all_isNumberChar_digits hw.all_isDigit, all_isNumberChar_digits hf, hpoint]
    | fraction hf => simp [all_isNumberChar_digits hf.all_isDigit, hpoint]
  · cases hexponent with
    | absent => rfl
    | @written mark _ _ _ hmark hsign hdigits =>
      have hletter : isNumberChar mark = true := by
        rcases hmark with rfl | rfl
        · exact show isNumberChar 'e' = true by decide
        · exact show isNumberChar 'E' = true by decide
      simp [all_isNumberChar_sign hsign, all_isNumberChar_digits hdigits.all_isDigit, hletter]

theorem IsNumber.ne_nil (h : IsNumber u d) : u ≠ [] := by
  obtain ⟨hsign, hmantissa, hexponent⟩ := h
  obtain ⟨c, more, rfl, -⟩ := hmantissa.exists_eq_cons
  simp

theorem IsNumber.isNumberChar_of_mem (h : IsNumber u d) (hc : c ∈ u) : isNumberChar c = true :=
  List.all_eq_true.1 h.all_isNumberChar c hc

/-! ## White space in front -/

/-- What is scanned behind the white space of a text reaches at least as far as any number
that the text begins with. -/
theorem scanNumber_of_isSpacedNumber (h : IsSpacedNumber q e) (rest : List Char) :
    ∃ d after, scanNumber ((q ++ rest).dropWhile isBlank) = some (d, after) ∧ after <:+ rest ∧
      (endsNumber rest = true → d = e ∧ after = rest) := by
  obtain ⟨hblank, hnumber⟩ := h
  rw [List.append_assoc, dropWhile_append_core hblank
    (fun c hc => isBlank_of_isNumberChar (hnumber.isNumberChar_of_mem hc)) hnumber.ne_nil]
  exact scanNumber_append hnumber rest

theorem IsSpacedNumber.decimal_unique (h : IsSpacedNumber p d) (h' : IsSpacedNumber p e) :
    d = e := by
  obtain ⟨d', after, hscan, -, hexact⟩ := scanNumber_of_isSpacedNumber h []
  obtain ⟨e', after', hscan', -, hexact'⟩ := scanNumber_of_isSpacedNumber h' []
  rw [hscan] at hscan'
  rw [← (hexact rfl).1, ← (hexact' rfl).1]
  exact congrArg Prod.fst (Option.some.inj hscan')

/-- What is scanned behind the white space of a text is the longest number that the text
begins with. -/
theorem exists_isLeading (h : scanNumber (s.dropWhile isBlank) = some (d, rest)) :
    ∃ p, IsLeading s p d ∧ s = p ++ rest := by
  obtain ⟨u, hnumber, hu⟩ := exists_isNumber h
  have hs : s = s.takeWhile isBlank ++ u ++ rest := by
    rw [List.append_assoc, ← hu, List.takeWhile_append_dropWhile]
  refine ⟨s.takeWhile isBlank ++ u, ⟨⟨rest, hs.symm⟩, .spaced List.all_takeWhile hnumber, ?_⟩, hs⟩
  rintro q e ⟨rest', rfl⟩ hq
  obtain ⟨d', after, hscan, hsuffix, -⟩ := scanNumber_of_isSpacedNumber hq rest'
  rw [h] at hscan
  obtain rfl : rest = after := congrArg Prod.snd (Option.some.inj hscan)
  have hlength := congrArg List.length hs
  have hle := hsuffix.length_le
  simp only [List.length_append] at hlength ⊢
  omega

theorem IsLeading.unique {p' : List Char} (h : IsLeading s p d) (h' : IsLeading s p' e) :
    p = p' ∧ d = e := by
  have hlength : p.length = p'.length :=
    Nat.le_antisymm (h'.longest p d h.begins h.isNumber) (h.longest p' e h'.begins h'.isNumber)
  obtain rfl : p = p' :=
    (List.prefix_of_prefix_length_le h.begins h'.begins hlength.le).eq_of_length hlength
  exact ⟨rfl, h.isNumber.decimal_unique h'.isNumber⟩

/-- A text that begins with a number has a longest one. -/
theorem exists_isLeading_of_isSpacedNumber (hq : IsSpacedNumber q e) (hs : q <+: s) :
    ∃ p d, IsLeading s p d := by
  obtain ⟨rest, rfl⟩ := hs
  obtain ⟨d, after, hscan, -, -⟩ := scanNumber_of_isSpacedNumber hq rest
  obtain ⟨p, hp, -⟩ := exists_isLeading hscan
  exact ⟨p, d, hp⟩

theorem IsLeading.exists_scanNumber (h : IsLeading s p d) :
    ∃ rest, scanNumber (s.dropWhile isBlank) = some (d, rest) := by
  obtain ⟨rest, rfl⟩ := h.begins
  obtain ⟨d', after, hscan, -, -⟩ := scanNumber_of_isSpacedNumber h.isNumber rest
  obtain ⟨p', hp', -⟩ := exists_isLeading hscan
  rw [(h.unique hp').2]
  exact ⟨after, hscan⟩

/-! ## The two readings -/

theorem leadingNumber?_of_scanNumber (hblank : (s.takeWhile isBlank).any isSeparatorControl = false)
    (h : scanNumber (s.dropWhile isBlank) = some (d, rest)) :
    leadingNumber? s = if d.toBinary64.isFinite then some d.toBinary64 else none := by
  simp [leadingNumber?, h, hblank]

theorem leadingNumber?_of_isLeading (hs : s.any isSeparatorControl = false) (h : IsLeading s p d) :
    leadingNumber? s = if d.toBinary64.isFinite then some d.toBinary64 else none := by
  obtain ⟨rest, hscan⟩ := h.exists_scanNumber
  refine leadingNumber?_of_scanNumber ?_ hscan
  rw [List.any_eq_false] at hs ⊢
  exact fun c hc => hs c (List.takeWhile_subset isBlank hc)

theorem leadingNumber?_eq_none (h : ∀ p d, ¬IsLeading s p d) : leadingNumber? s = none := by
  unfold leadingNumber?
  split
  · rfl
  · next hscan =>
    obtain ⟨p, hp, -⟩ := exists_isLeading hscan
    exact absurd hp (h _ _)

theorem dropUnderscores?_eq_some (afterDigit : Bool) (hs : '_' ∉ s) :
    dropUnderscores? afterDigit s = some s := by
  induction s generalizing afterDigit with
  | nil => rfl
  | cons c rest ih =>
    rw [List.mem_cons, not_or] at hs
    rw [dropUnderscores?, if_neg (Ne.symm hs.1), ih _ hs.2]
    rfl

/-- A number behind white space is a whole number too, unless an information separator is
in that white space. -/
theorem wholeNumber?_of_isSpacedNumber (hp : p.any isSeparatorControl = false)
    (h : IsSpacedNumber p d) : wholeNumber? p = some d.toBinary64 := by
  obtain @⟨blank, number, d, hblank, hnumber⟩ := h
  have htrim : trimNumber (blank ++ number) = number := by
    have hbefore : blank.all isNumberBlank = true := by
      rw [List.any_append, Bool.or_eq_false_iff, List.any_eq_false] at hp
      rw [List.all_eq_true] at hblank ⊢
      exact fun c hc => by simp [isNumberBlank, hblank c hc, hp.1 c hc]
    have hcore : ∀ c ∈ number, isNumberBlank c = false := fun c hc => by
      simp [isNumberBlank, isBlank_of_isNumberChar (hnumber.isNumberChar_of_mem hc)]
    have haround := dropWhile_around hbefore hcore hnumber.ne_nil List.all_nil
    rwa [List.append_nil] at haround
  have hunderscore : '_' ∉ number := fun hmem =>
    ne_underscore_of_isNumberChar (hnumber.isNumberChar_of_mem hmem) rfl
  obtain ⟨d', after, hscan, -, hexact⟩ := scanNumber_append hnumber []
  obtain ⟨rfl, rfl⟩ := hexact rfl
  rw [List.append_nil] at hscan
  rw [wholeNumber?, htrim, dropUnderscores?_eq_some false hunderscore]
  simp [hscan]

/-! ## Integers -/

/-- The digits of the data format are the first ones of the list of all digits. -/
theorem digitValue?_of_json {c : Char} (hc : Json.isDigit c = true) :
    digitValue? c = some (c.toNat - '0'.toNat) := by
  have hrange : (48 ≤ c.toNat && c.toNat < 48 + 10) = true := by
    simp only [Json.isDigit, Bool.and_eq_true, decide_eq_true_eq, Char.le_def,
      UInt32.le_iff_toNat_le] at hc
    have hlow : 48 ≤ c.toNat := hc.1
    have hhigh : c.toNat ≤ 57 := hc.2
    simp only [Bool.and_eq_true, decide_eq_true_eq]
    omega
  have hfirst : (zeros.find? fun first => first ≤ c.toNat && c.toNat < first + 10) = some 48 :=
    List.find?_cons_of_pos hrange
  rw [digitValue?, hfirst]
  rfl

theorem isDigit_of_json {c : Char} (hc : Json.isDigit c = true) : isDigit c = true := by
  rw [isDigit, digitValue?_of_json hc]
  rfl

theorem foldl_eq_ofDigitChars {digits : List Char} (h : digits.all Json.isDigit = true) (n : Nat) :
    digits.foldl (fun n c => n * 10 + (digitValue? c).getD 0) n = Nat.ofDigitChars 10 digits n := by
  induction digits generalizing n with
  | nil => rfl
  | cons c rest ih =>
    rw [List.all_cons, Bool.and_eq_true] at h
    rw [List.foldl_cons, ih h.2, digitValue?_of_json h.1, Nat.ofDigitChars_cons, Nat.mul_comm n]
    rfl

theorem digitsValue_decimalDigits (n : Nat) : Text.digitsValue (decimalDigits n) = n :=
  (foldl_eq_ofDigitChars (all_isDigit_decimalDigits n) 0).trans
    (Maquette.digitsValue_decimalDigits n)

theorem isNumber_integerText (n : Int) :
    IsNumber (integerText n).toList ⟨decide (n < 0), n.natAbs, 0⟩ := by
  have hdigits : IsDigits (decimalDigits n.natAbs) := by
    refine ⟨decimalDigits_ne_nil _, ?_⟩
    rw [List.all_eq_true]
    exact fun c hc => isDigit_of_json (isDigit_of_mem_decimalDigits hc)
  have hsign : IsSign (if n < 0 then ['-'] else []) (decide (n < 0)) := by
    by_cases hn : n < 0
    · rw [if_pos hn, decide_eq_true hn]
      exact .minus
    · rw [if_neg hn, decide_eq_false hn]
      exact .absent
  have hnumber := IsNumber.parts hsign (.whole hdigits) .absent
  rw [List.append_nil, digitsValue_decimalDigits] at hnumber
  rw [integerText, String.toList_ofList]
  exact hnumber

theorem toBinary64_ofInt (n : Int) :
    (Decimal.mk (decide (n < 0)) n.natAbs 0).toBinary64 = Binary64.ofInt n := by
  have hexponent : (Decimal.mk (decide (n < 0)) n.natAbs 0).limitedExponent = 0 := by
    unfold Decimal.limitedExponent Decimal.lowestExponent Decimal.highestExponent
    dsimp only
    omega
  rw [Decimal.toBinary64, hexponent]
  unfold Decimal.nearest Binary64.ofInt
  exact congrArg (Binary64.ofRatio _ · 1) (Nat.mul_one _)

end Number

end Maquette
