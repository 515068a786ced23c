import Maquette.Proofs.Dart.Scan
import Maquette.Proofs.Text.Margin

/-!
# Moving code to the right

A finished text of code is moved line by line, whatever the lines are made of.
`shift` is the same move on glyphs: it sets margins outside of literals, and
reflows the literals. Everything that a scan tells about code is easy to follow
through `shift`, because it changes neither which glyphs there are, blanks apart,
nor what a literal stands next to.
-/

namespace Maquette.Dart

open Text

/-- So many blanks. -/
def blankGlyphs (margin : Nat) : List Glyph :=
  chars (List.replicate margin ' ')

/-- The glyphs with every line but the first moved to the right. -/
@[simp] def shift (margin : Nat) : List Glyph → List Glyph
  | [] => []
  | .char c :: rest =>
    if c = '\n' ∧ startsBlank (written rest) = false then
      .char c :: (blankGlyphs margin ++ shift margin rest)
    else .char c :: shift margin rest
  | .literal value :: rest => .literal (reflow margin value) :: shift margin rest
  | .comment text :: rest => .comment text :: shift margin rest

/-- In a literal, either a character is escaped and does not count as blank, or it
is itself and breaks a line exactly if it does so elsewhere. -/
theorem quotedChar_breaks (c : Char) :
    (∃ d, quotedChar c = ['\\', d] ∧ isLineBoundary d = false ∧ isSoftBreak c = false ∧
      (isBlank c && c != '\r' && c != '\n') = false) ∨
    (quotedChar c = [c] ∧ isSoftBreak c = isLineBoundary c ∧
      (isBlank c && c != '\r' && c != '\n') = isBlank c) := by
  rcases quotedChar_cases c with ⟨d, hquoted, -, hd, hblank⟩ | ⟨hquoted, -, -, h⟩
  · refine .inl ⟨d, hquoted, ?_, ?_, ?_⟩
    · exact Bool.eq_false_iff.2 fun hline => by simp [isBlank_of_isLineBoundary hline] at hd
    · rcases hblank with hblank | rfl | rfl
      · refine Bool.eq_false_iff.2 fun hsoft => ?_
        simp only [isSoftBreak, Bool.and_eq_true] at hsoft
        simp [isBlank_of_isLineBoundary hsoft.1.1] at hblank
      · rfl
      · rfl
    · rcases hblank with hblank | rfl | rfl
      · rw [hblank, Bool.false_and, Bool.false_and]
      · rfl
      · rfl
  · simp only [not_or] at h
    have hcr : (c != '\r') = true := bne_iff_ne.2 h.2.1
    have hlf : (c != '\n') = true := bne_iff_ne.2 h.2.2
    refine .inr ⟨hquoted, ?_, ?_⟩
    · rw [isSoftBreak, hcr, hlf, Bool.and_true, Bool.and_true]
    · rw [hcr, hlf, Bool.and_true, Bool.and_true]

/-- The inside of a literal begins with a blank line exactly when the displayed
text breaks it before its first visible character. -/
theorem startsBlank_quoted (v t : List Char) :
    startsBlank (v.flatMap quotedChar ++ '\'' :: t) = breaksBlank v := by
  induction v with
  | nil => rfl
  | cons c v ih =>
    rw [List.flatMap_cons, List.append_assoc, breaksBlank]
    rcases quotedChar_breaks c with ⟨d, hquoted, -, hsoft, hblank⟩ | ⟨hquoted, hsoft, hblank⟩
    · rw [hquoted, hsoft, hblank]
      rfl
    · rw [hquoted, hsoft, hblank, ← ih]
      rfl

/-- A literal that is moved: its inside is reflowed, and what comes after it is
moved as if the literal were not there. -/
theorem hang_quoted (margin : Nat) (v t : List Char) :
    hang margin (v.flatMap quotedChar ++ '\'' :: t) =
      (reflow margin v).flatMap quotedChar ++ '\'' :: hang margin t := by
  have hmargin : (List.replicate margin ' ').flatMap quotedChar = List.replicate margin ' ' :=
    List.flatMap_replicate.trans (by simp [show quotedChar ' ' = [' '] from rfl])
  induction v with
  | nil => exact hang_cons_of_not_isLineBoundary (by decide) margin t
  | cons c v ih =>
    rw [List.flatMap_cons, List.append_assoc, reflow]
    rcases quotedChar_breaks c with ⟨d, hquoted, hd, hsoft, -⟩ | ⟨hquoted, hsoft, -⟩
    · rw [hquoted, hsoft, Bool.false_and, if_neg (by decide), List.flatMap_cons, hquoted]
      simp only [List.cons_append, List.nil_append]
      rw [hang_cons_of_not_isLineBoundary (by decide), hang_cons_of_not_isLineBoundary hd, ih]
    · rw [hquoted, hsoft, List.singleton_append]
      by_cases hc : isLineBoundary c = true
      · have hcr : c ≠ '\r' := by
          rintro rfl
          exact absurd hquoted (by decide)
        rw [hang_cons_of_isLineBoundary hc hcr, indent_eq, startsBlank_quoted, ih, hc]
        cases breaksBlank v with
        | true => simp [hquoted]
        | false => simp [hquoted, hmargin]
      · rw [Bool.not_eq_true] at hc
        rw [hang_cons_of_not_isLineBoundary hc, ih, hc]
        simp [hquoted]

theorem hang_append_of_all (margin : Nat) {s : List Char}
    (h : s.all (fun c => !isLineBoundary c) = true) (t : List Char) :
    hang margin (s ++ t) = s ++ hang margin t := by
  induction s with
  | nil => rfl
  | cons c s ih =>
    simp only [List.all_cons, Bool.and_eq_true, Bool.not_eq_true'] at h
    rw [List.cons_append, hang_cons_of_not_isLineBoundary h.1, ih h.2, List.cons_append]

theorem written_blankGlyphs (margin : Nat) :
    written (blankGlyphs margin) = List.replicate margin ' ' :=
  written_chars _

/-- Moving what well-formed glyphs write is moving the glyphs. -/
theorem hang_written (margin : Nat) {gs : List Glyph} (h : wellFormed gs = true) :
    hang margin (written gs) = written (shift margin gs) := by
  induction gs with
  | nil => exact hang_nil margin
  | cons g gs ih =>
    cases g with
    | literal value =>
      have hinside : written (.literal value :: gs) =
          '\'' :: (value.flatMap quotedChar ++ '\'' :: written gs) := by
        simp [Glyph.text, quotedChars]
      rw [hinside, hang_cons_of_not_isLineBoundary (by decide), hang_quoted, ih h]
      simp [shift, Glyph.text, quotedChars]
    | comment text =>
      simp only [wellFormed, Bool.and_eq_true] at h
      obtain ⟨⟨htext, -⟩, hrest⟩ := h
      have hall : ('/' :: '/' :: text).all (fun c => !isLineBoundary c) = true := htext
      rw [written_cons, Glyph.text, hang_append_of_all margin hall, ih hrest]
      rfl
    | char c =>
      simp only [wellFormed, isCodeChar, Bool.and_eq_true, Bool.or_eq_true, Bool.not_eq_true',
        beq_iff_eq] at h
      obtain ⟨⟨⟨-, hline⟩, -⟩, hrest⟩ := h
      rw [written_cons, Glyph.text, List.singleton_append, shift]
      rcases hline with hline | rfl
      · have hne : c ≠ '\n' := by
          rintro rfl
          exact absurd hline (by decide)
        rw [hang_cons_of_not_isLineBoundary hline, ih hrest, if_neg (fun hc => hne hc.1)]
        rfl
      · rw [hang_cons_of_isLineBoundary (by decide) (by decide), indent_eq, ih hrest]
        cases startsBlank (written gs) with
        | true => rfl
        | false => simp [Glyph.text, written_blankGlyphs]

theorem wellFormed_blankGlyphs_append (margin : Nat) (gs : List Glyph) :
    wellFormed (blankGlyphs margin ++ gs) = wellFormed gs := by
  induction margin with
  | zero => rfl
  | succ n ih =>
    have hspace : isCodeChar ' ' = true := by decide
    rw [blankGlyphs, List.replicate_succ]
    simp only [chars, List.map_cons, List.cons_append, wellFormed, hspace, Bool.true_and]
    exact ih

theorem dividesBy_shift (margin : Nat) (gs : List Glyph) :
    dividesBy (shift margin gs) = dividesBy gs := by
  cases gs with
  | nil => rfl
  | cons g gs =>
    cases g with
    | char c =>
      rw [shift]
      split <;> rfl
    | literal value => rfl
    | comment text => rfl

theorem endsLine_shift (margin : Nat) (gs : List Glyph) :
    endsLine (shift margin gs) = endsLine gs := by
  cases gs with
  | nil => rfl
  | cons g gs =>
    cases g with
    | char c =>
      rw [shift]
      split <;> rfl
    | literal value => rfl
    | comment text => rfl

theorem wellFormed_shift (margin : Nat) (gs : List Glyph) :
    wellFormed (shift margin gs) = wellFormed gs := by
  induction gs with
  | nil => rfl
  | cons g gs ih =>
    cases g with
    | literal value => exact ih
    | comment text => rw [shift, wellFormed, ih, endsLine_shift, wellFormed]
    | char c =>
      rw [shift, wellFormed]
      split
      · next hc =>
        obtain ⟨rfl, -⟩ := hc
        rw [wellFormed, wellFormed_blankGlyphs_append, ih]
        rfl
      · rw [wellFormed, dividesBy_shift, ih]

theorem brackets_blankGlyphs_append (pending : List Char) (margin : Nat) (gs : List Glyph) :
    brackets pending (blankGlyphs margin ++ gs) = brackets pending gs := by
  induction margin with
  | zero => rfl
  | succ n ih =>
    rw [blankGlyphs, List.replicate_succ]
    exact ih

theorem brackets_shift (pending : List Char) (margin : Nat) (gs : List Glyph) :
    brackets pending (shift margin gs) = brackets pending gs := by
  induction gs generalizing pending with
  | nil => rfl
  | cons g gs ih =>
    cases g with
    | literal value => exact ih pending
    | comment text => exact ih pending
    | char c =>
      rw [shift]
      split
      · rw [brackets_cons, brackets_cons]
        exact congrArg (Option.bind _) (funext fun after => by
          rw [brackets_blankGlyphs_append, ih])
      · rw [brackets_cons, brackets_cons]
        exact congrArg (Option.bind _) (funext ih)

theorem literals_shift (margin : Nat) (gs : List Glyph) :
    literals (shift margin gs) = (literals gs).map (reflow margin) := by
  induction gs with
  | nil => rfl
  | cons g gs ih =>
    cases g with
    | literal value => exact congrArg (_ :: ·) ih
    | comment text => exact ih
    | char c =>
      rw [shift]
      split
      · rw [literals_char_cons, literals_append, blankGlyphs, literals_chars, List.nil_append, ih]
        rfl
      · exact ih

/-- Taking the values of the literals out does not change which lines are blank,
since the quotation marks stay. -/
theorem startsBlank_written_erase (gs : List Glyph) :
    startsBlank (written (erase gs)) = startsBlank (written gs) := by
  induction gs with
  | nil => rfl
  | cons g gs ih =>
    cases g with
    | literal value => rfl
    | comment text => rfl
    | char c =>
      rw [erase_char_cons, written_cons, written_cons, Glyph.text, List.singleton_append,
        List.singleton_append, startsBlank, startsBlank, ih]

theorem erase_shift (margin : Nat) (gs : List Glyph) :
    erase (shift margin gs) = shift margin (erase gs) := by
  induction gs with
  | nil => rfl
  | cons g gs ih =>
    cases g with
    | literal value => exact congrArg (.literal [] :: ·) ih
    | comment text => exact congrArg (.comment text :: ·) ih
    | char c =>
      rw [erase_char_cons, shift, shift, startsBlank_written_erase]
      split
      · rw [erase_char_cons, erase_append, blankGlyphs, erase_chars, ih]
      · rw [erase_char_cons, ih]

end Maquette.Dart
