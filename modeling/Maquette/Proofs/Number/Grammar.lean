import Maquette.Number.Reading
import Mathlib.Data.List.Infix

/-!
# Numbers in texts

The grammar of the numbers that texts begin with: a sign, digits with a point somewhere
among or in front of them, and an exponent, the digits being those of any script. Each
part is a relation between a text and what it writes.

The scanner works from left to right and never gives a character back, except for a
letter without an exponent behind it. Two facts about it are proved for each part and
carried on to the next: what is taken is a part, and a part with more text behind it is
taken to its end at least, exactly to its end if the text does not go on with it.
-/

namespace Maquette.Number

open Text

/-! ## The grammar -/

/-- The sign of a number in a text, minus counting as true. -/
inductive IsSign : List Char → Bool → Prop
  | absent : IsSign [] false
  | plus : IsSign ['+'] false
  | minus : IsSign ['-'] true

/-- At least one digit, and nothing else. -/
structure IsDigits (digits : List Char) : Prop where
  ne_nil : digits ≠ []
  all_isDigit : digits.all isDigit = true

/-- The digits of an unsigned number and its point, with the digits in front of the point
and those behind it. -/
inductive IsMantissa : List Char → List Char → List Char → Prop
  | whole {w : List Char} (hw : IsDigits w) : IsMantissa w w []
  | pointed {w f : List Char} (hw : IsDigits w) (hf : f.all isDigit = true) :
      IsMantissa (w ++ '.' :: f) w f
  | fraction {f : List Char} (hf : IsDigits f) : IsMantissa ('.' :: f) [] f

/-- An exponent in a text, if there is one, with its value. -/
inductive IsExponent : List Char → Int → Prop
  | absent : IsExponent [] 0
  | written {mark : Char} {sign digits : List Char} {negative : Bool}
      (hmark : mark = 'e' ∨ mark = 'E') (hsign : IsSign sign negative) (hdigits : IsDigits digits) :
      IsExponent (mark :: (sign ++ digits))
        (if negative then -(digitsValue digits : Int) else digitsValue digits)

/-- A number as it stands in a text, with the decimal that it writes. -/
inductive IsNumber : List Char → Decimal → Prop
  | parts {sign mantissa exponent w f : List Char} {negative : Bool} {scale : Int}
      (hsign : IsSign sign negative) (hmantissa : IsMantissa mantissa w f)
      (hexponent : IsExponent exponent scale) :
      IsNumber (sign ++ (mantissa ++ exponent)) ⟨negative, digitsValue (w ++ f), scale - f.length⟩

/-- A number behind white space. -/
inductive IsSpacedNumber : List Char → Decimal → Prop
  | spaced {blank number : List Char} {d : Decimal} (hblank : blank.all isBlank = true)
      (hnumber : IsNumber number d) : IsSpacedNumber (blank ++ number) d

/-! ## Digits -/

section Digits

variable {c d : Char} {digits rest s : List Char}

theorem ne_of_isDigit (hc : isDigit c = true) (hd : isDigit d = false) : c ≠ d := by
  rintro rfl
  rw [hc] at hd
  cases hd

theorem isDigit_iff :
    isDigit c = true ↔ ∃ first ∈ zeros, first ≤ c.toNat ∧ c.toNat < first + 10 := by
  simp [isDigit, digitValue?, List.find?_isSome]

/-- No digit is white space. -/
theorem isBlank_of_isDigit (hc : isDigit c = true) : isBlank c = false := by
  have hdisjoint : ∀ first ∈ zeros, ∀ range ∈ blanks.ranges,
      first + 10 ≤ range.1 ∨ range.2 < first := by decide
  obtain ⟨first, hzero, hlow, hhigh⟩ := isDigit_iff.1 hc
  rw [← Bool.not_eq_true, isBlank, CharSet.contains_iff]
  rintro ⟨range, hrange, hfirst, hlast⟩
  have := hdisjoint first hzero range hrange
  omega

theorem IsDigits.exists_eq_cons (h : IsDigits digits) :
    ∃ c more, digits = c :: more ∧ isDigit c = true := by
  obtain ⟨c, more, rfl⟩ := List.exists_cons_of_ne_nil h.ne_nil
  have hall := h.all_isDigit
  rw [List.all_cons, Bool.and_eq_true] at hall
  exact ⟨c, more, rfl, hall.1⟩

theorem scanDigits_append (h : digits.all isDigit = true) (rest : List Char) :
    scanDigits (digits ++ rest) = (digits ++ (scanDigits rest).1, (scanDigits rest).2) := by
  rw [List.all_eq_true] at h
  rw [scanDigits, List.takeWhile_append_of_pos h, List.dropWhile_append_of_pos h]
  rfl

theorem scanDigits_of_head (h : rest.head?.any isDigit = false) : scanDigits rest = ([], rest) := by
  cases rest with
  | nil => rfl
  | cons c rest =>
    have hc : isDigit c = false := h
    simp [scanDigits, hc]

theorem scanDigits_cons (hc : isDigit c = false) (rest : List Char) :
    scanDigits (c :: rest) = ([], c :: rest) :=
  scanDigits_of_head hc

theorem scanDigits_suffix (s : List Char) : (scanDigits s).2 <:+ s :=
  List.dropWhile_suffix _

theorem scanDigits_fst_append_snd (s : List Char) : (scanDigits s).1 ++ (scanDigits s).2 = s :=
  List.takeWhile_append_dropWhile

theorem all_isDigit_scanDigits (s : List Char) : (scanDigits s).1.all isDigit = true :=
  List.all_takeWhile

end Digits

section Scan

variable {sign mantissa exponent w f s u rest : List Char} {negative : Bool} {scale : Int}
  {d : Decimal}

/-! ## What is scanned -/

theorem exists_isSign (s : List Char) :
    ∃ sign, IsSign sign (scanSign s).1 ∧ s = sign ++ (scanSign s).2 := by
  unfold scanSign
  split
  · exact ⟨['+'], .plus, rfl⟩
  · exact ⟨['-'], .minus, rfl⟩
  · exact ⟨[], .absent, rfl⟩

theorem isDigits_of_scanDigits (hs : scanDigits s = (w, rest)) (hw : w ≠ []) : IsDigits w := by
  refine ⟨hw, ?_⟩
  have hall := all_isDigit_scanDigits s
  rwa [hs] at hall

theorem eq_append_of_scanDigits (hs : scanDigits s = (w, rest)) : s = w ++ rest := by
  rw [← scanDigits_fst_append_snd s, hs]

theorem exists_isMantissa (h : scanMantissa s = some (w, f, rest)) :
    ∃ mantissa, IsMantissa mantissa w f ∧ s = mantissa ++ rest := by
  unfold scanMantissa at h
  split at h
  · next hs =>
    split at h
    · cases h
    · next hne hf =>
      obtain ⟨rfl, rfl, rfl⟩ : _ ∧ _ ∧ _ := by simpa using h
      refine ⟨'.' :: _, .fraction (isDigits_of_scanDigits hf hne), ?_⟩
      rw [eq_append_of_scanDigits hs, eq_append_of_scanDigits hf]
      rfl
  · cases h
  · next more hne hs =>
    cases h
    refine ⟨w ++ '.' :: (scanDigits more).1,
      .pointed (isDigits_of_scanDigits hs hne) (all_isDigit_scanDigits more), ?_⟩
    rw [eq_append_of_scanDigits hs, List.append_assoc, List.cons_append]
    exact congrArg (w ++ '.' :: ·) (scanDigits_fst_append_snd more).symm
  · next hne _ hs =>
    cases h
    exact ⟨w, .whole (isDigits_of_scanDigits hs hne), eq_append_of_scanDigits hs⟩

theorem exists_isExponent (s : List Char) :
    ∃ exponent, IsExponent exponent (scanExponent s).1 ∧ s = exponent ++ (scanExponent s).2 := by
  unfold scanExponent
  split
  · next c rest =>
    split
    · next hmark =>
      obtain ⟨sign, hsign, hrest⟩ := exists_isSign rest
      dsimp only
      split
      · exact ⟨[], .absent, rfl⟩
      · next digits after hne hdigits =>
        refine ⟨c :: (sign ++ digits),
          .written hmark hsign (isDigits_of_scanDigits hdigits hne), ?_⟩
        rw [List.cons_append, List.append_assoc, ← eq_append_of_scanDigits hdigits, ← hrest]
    · exact ⟨[], .absent, rfl⟩
  · exact ⟨[], .absent, rfl⟩

theorem suffix_scanExponent (s : List Char) : (scanExponent s).2 <:+ s := by
  obtain ⟨exponent, -, hs⟩ := exists_isExponent s
  exact ⟨exponent, hs.symm⟩

/-- What is scanned is a number at the beginning of the text. -/
theorem exists_isNumber (h : scanNumber s = some (d, rest)) :
    ∃ u, IsNumber u d ∧ s = u ++ rest := by
  obtain ⟨sign, hsign, hs⟩ := exists_isSign s
  unfold scanNumber at h
  dsimp only at h
  split at h
  · cases h
  · next hscan =>
    obtain ⟨mantissa, hmantissa, hunsigned⟩ := exists_isMantissa hscan
    obtain ⟨rfl, rfl⟩ := Prod.mk.inj (Option.some.inj h)
    obtain ⟨exponent, hexponent, hafter⟩ := exists_isExponent _
    refine ⟨sign ++ (mantissa ++ exponent), .parts hsign hmantissa hexponent, ?_⟩
    rw [List.append_assoc, List.append_assoc, ← hafter, ← hunsigned, ← hs]

/-! ## Scanning a number with more text behind it -/

def isSignChar (c : Char) : Bool :=
  c == '+' || c == '-'

def isMantissaChar (c : Char) : Bool :=
  isDigit c || c == '.'

def isMark (c : Char) : Bool :=
  c == 'e' || c == 'E'

/-- A text that does not go on with a number in front of it. -/
def endsNumber (rest : List Char) : Bool :=
  !rest.head?.any fun c => isMantissaChar c || isMark c

theorem scanSign_append (h : IsSign sign negative) (hrest : rest.head?.any isSignChar = false) :
    scanSign (sign ++ rest) = (negative, rest) := by
  cases h with
  | plus => rfl
  | minus => rfl
  | absent =>
    rw [List.nil_append]
    unfold scanSign
    split
    · cases hrest
    · cases hrest
    · rfl

theorem IsMantissa.exists_eq_cons (h : IsMantissa mantissa w f) :
    ∃ c more, mantissa = c :: more ∧ (isDigit c = true ∨ c = '.') := by
  cases h with
  | whole hw =>
    obtain ⟨c, more, rfl, hc⟩ := hw.exists_eq_cons
    exact ⟨c, more, rfl, .inl hc⟩
  | pointed hw hf =>
    obtain ⟨c, more, rfl, hc⟩ := hw.exists_eq_cons
    exact ⟨c, more ++ '.' :: f, rfl, .inl hc⟩
  | fraction hf => exact ⟨'.', f, rfl, .inr rfl⟩

theorem IsMantissa.head_append (h : IsMantissa mantissa w f) :
    (mantissa ++ rest).head?.any isSignChar = false := by
  obtain ⟨c, more, rfl, hc⟩ := h.exists_eq_cons
  rcases hc with hc | rfl
  · simp [isSignChar, ne_of_isDigit hc (d := '+') (by decide),
      ne_of_isDigit hc (d := '-') (by decide)]
  · rfl

theorem scanMantissa_of_pointed (hw : w ≠ []) (hs : scanDigits s = (w, '.' :: rest)) :
    scanMantissa s = some (w, (scanDigits rest).1, (scanDigits rest).2) := by
  unfold scanMantissa
  rw [hs]
  obtain ⟨c, more, rfl⟩ := List.exists_cons_of_ne_nil hw
  rfl

theorem scanMantissa_of_whole (hw : w ≠ []) (hs : scanDigits s = (w, rest))
    (hrest : rest.head? ≠ some '.') : scanMantissa s = some (w, [], rest) := by
  unfold scanMantissa
  rw [hs]
  split
  · next heq => exact absurd (Prod.mk.inj heq).1 hw
  · next heq => exact absurd (Prod.mk.inj heq).1 hw
  · next heq =>
    rw [(Prod.mk.inj heq).2] at hrest
    exact absurd rfl hrest
  · next heq =>
    obtain ⟨rfl, rfl⟩ := Prod.mk.inj heq
    rfl

theorem scanMantissa_of_fraction (hs : scanDigits s = ([], '.' :: rest))
    (hf : (scanDigits rest).1 ≠ []) :
    scanMantissa s = some ([], (scanDigits rest).1, (scanDigits rest).2) := by
  rcases hfraction : scanDigits rest with ⟨_ | ⟨c, more⟩, after⟩
  · rw [hfraction] at hf
    exact absurd rfl hf
  · simp only [scanMantissa, hs, hfraction]

/-- A mantissa is scanned to its end at least, and no further if neither a digit nor a
point comes behind it. -/
theorem scanMantissa_append (h : IsMantissa mantissa w f) (rest : List Char) :
    ∃ w' f' after, scanMantissa (mantissa ++ rest) = some (w', f', after) ∧ after <:+ rest ∧
      (rest.head?.any isMantissaChar = false → w' = w ∧ f' = f ∧ after = rest) := by
  have hdigits (hrest : rest.head?.any isMantissaChar = false) :
      scanDigits rest = ([], rest) := by
    refine scanDigits_of_head ?_
    cases rest with
    | nil => rfl
    | cons c rest => exact (Bool.or_eq_false_iff.1 hrest).1
  cases h with
  | whole hw =>
    have hscan := scanDigits_append hw.all_isDigit rest
    have hne : mantissa ++ (scanDigits rest).1 ≠ [] := List.append_ne_nil_of_left_ne_nil hw.ne_nil _
    by_cases hpoint : (scanDigits rest).2.head? = some '.'
    · obtain ⟨more, hmore⟩ := List.head?_eq_some_iff.1 hpoint
      refine ⟨_, _, _, scanMantissa_of_pointed hne (hmore ▸ hscan), ?_, fun hrest => ?_⟩
      · exact (scanDigits_suffix more).trans ((List.suffix_cons '.' more).trans
          (hmore ▸ scanDigits_suffix rest))
      · rw [hdigits hrest] at hmore
        rw [show rest = '.' :: more from hmore] at hrest
        cases hrest
    · refine ⟨_, _, _, scanMantissa_of_whole hne hscan hpoint, scanDigits_suffix rest,
        fun hrest => ?_⟩
      rw [hdigits hrest]
      exact ⟨List.append_nil _, rfl, rfl⟩
  | @pointed w f hw hf =>
    have hscan : scanDigits (w ++ '.' :: (f ++ rest)) = (w, '.' :: (f ++ rest)) := by
      rw [scanDigits_append hw.all_isDigit, scanDigits_cons (by decide), List.append_nil]
    rw [List.append_assoc, List.cons_append]
    refine ⟨_, _, _, scanMantissa_of_pointed hw.ne_nil hscan, ?_, fun hrest => ?_⟩
    · rw [scanDigits_append hf]
      exact scanDigits_suffix rest
    · rw [scanDigits_append hf, hdigits hrest]
      exact ⟨rfl, List.append_nil f, rfl⟩
  | @fraction f hf =>
    have hscan : scanDigits ('.' :: (f ++ rest)) = ([], '.' :: (f ++ rest)) :=
      scanDigits_cons (by decide) _
    have hfraction := scanDigits_append hf.all_isDigit rest
    have hne : (scanDigits (f ++ rest)).1 ≠ [] := by
      rw [hfraction]
      exact List.append_ne_nil_of_left_ne_nil hf.ne_nil _
    refine ⟨_, _, _, scanMantissa_of_fraction hscan hne, ?_, fun hrest => ?_⟩
    · rw [hfraction]
      exact scanDigits_suffix rest
    · rw [hfraction, hdigits hrest]
      exact ⟨rfl, List.append_nil f, rfl⟩

theorem scanExponent_written {mark : Char} {digits : List Char} (hmark : mark = 'e' ∨ mark = 'E')
    (hsign : IsSign sign negative) (hdigits : IsDigits digits) (rest : List Char) :
    scanExponent (mark :: (sign ++ (digits ++ rest))) =
      (if negative then -(digitsValue (digits ++ (scanDigits rest).1) : Int)
        else digitsValue (digits ++ (scanDigits rest).1), (scanDigits rest).2) := by
  have hhead : (digits ++ rest).head?.any isSignChar = false :=
    (IsMantissa.whole hdigits).head_append
  have hscan := scanDigits_append hdigits.all_isDigit rest
  obtain ⟨c, more, rfl⟩ := List.exists_cons_of_ne_nil hdigits.ne_nil
  unfold scanExponent
  dsimp only
  rw [if_pos hmark, scanSign_append hsign hhead, hscan]
  rfl

theorem scanExponent_of_not_mark (h : s.head?.any isMark = false) : scanExponent s = (0, s) := by
  cases s with
  | nil => rfl
  | cons c rest =>
    have hc : ¬(c = 'e' ∨ c = 'E') := by simpa [isMark] using h
    exact if_neg hc

/-- A number is scanned to its end at least, and no further if what comes behind it does
not go on with it. -/
theorem scanNumber_append (h : IsNumber u d) (rest : List Char) :
    ∃ d' after, scanNumber (u ++ rest) = some (d', after) ∧ after <:+ rest ∧
      (endsNumber rest = true → d' = d ∧ after = rest) := by
  obtain ⟨hsign, hmantissa, hexponent⟩ := h
  unfold scanNumber
  rw [List.append_assoc, List.append_assoc, scanSign_append hsign hmantissa.head_append]
  dsimp only
  cases hexponent with
  | absent =>
    obtain ⟨w', f', after, hscan, hsuffix, hexact⟩ := scanMantissa_append hmantissa rest
    rw [List.nil_append, hscan]
    refine ⟨_, _, rfl, (suffix_scanExponent after).trans hsuffix, fun hrest => ?_⟩
    have hends : rest.head?.any isMantissaChar = false ∧ rest.head?.any isMark = false := by
      cases rest with
      | nil => exact ⟨rfl, rfl⟩
      | cons c rest => simpa [endsNumber, and_assoc] using hrest
    obtain ⟨rfl, rfl, rfl⟩ := hexact hends.1
    rw [scanExponent_of_not_mark hends.2]
    exact ⟨rfl, rfl⟩
  | @written mark sign digits negative hmark hsign hdigits =>
    have hhead : (mark :: (sign ++ digits) ++ rest).head?.any isMantissaChar = false := by
      rcases hmark with rfl | rfl
      · exact show isMantissaChar 'e' = false by decide
      · exact show isMantissaChar 'E' = false by decide
    obtain ⟨w', f', after, hscan, -, hexact⟩ :=
      scanMantissa_append hmantissa (mark :: (sign ++ digits) ++ rest)
    obtain ⟨rfl, rfl, rfl⟩ := hexact hhead
    rw [hscan]
    dsimp only
    rw [List.cons_append, List.append_assoc, scanExponent_written hmark hsign hdigits]
    refine ⟨_, _, rfl, scanDigits_suffix rest, fun hrest => ?_⟩
    have hends : rest.head?.any isDigit = false := by
      cases rest with
      | nil => rfl
      | cons c rest =>
        simp only [endsNumber, isMantissaChar, List.head?_cons, Option.any_some, Bool.not_eq_true',
          Bool.or_eq_false_iff] at hrest
        exact hrest.1.1
    rw [scanDigits_of_head hends, List.append_nil]
    exact ⟨rfl, rfl⟩

end Scan

end Maquette.Number
