import Maquette.Text.Line

/-!
# Moving a text to the right

`Text.lines` cuts a text first and `Text.hang` puts it together again, which
says little about a text that begins with a given character. The equations here
follow the text from left to right instead: a character that ends a line is
followed by the margin of the next line unless that line is blank, and every
other character stays as it is.

A displayed text stands in a literal, where carriage returns and line feeds are
escaped and end no line. The other line boundaries stand for themselves, and the
margin that a move puts after them becomes a part of the literal: `reflow` is the
displayed text that comes out. It is the text that went in exactly when that text
has no such boundary.
-/

namespace Maquette.Text

theorem isBlank_of_isLineBoundary {c : Char} (h : isLineBoundary c = true) : isBlank c = true := by
  simp [isLineBoundary, isBlank, CharSet.contains, lineBoundaries, blanks] at h ⊢
  omega

theorem lines_cons_of_not_isLineBoundary {c : Char} (h : isLineBoundary c = false)
    (rest : List Char) :
    lines (c :: rest) =
      match lines rest with
      | [] => [[c]]
      | line :: more => (c :: line) :: more := by
  rw [lines]
  · refine (if_neg (by simp [h])).trans ?_
    cases lines rest <;> rfl
  · rintro rest rfl -
    exact absurd h (by decide)

theorem lines_cons_of_isLineBoundary {c : Char} (h : isLineBoundary c = true) (hcr : c ≠ '\r')
    (rest : List Char) : lines (c :: rest) = [c] :: lines rest := by
  rw [lines]
  · rw [if_pos h]
  · rintro rest rfl -
    exact absurd rfl hcr

@[simp] theorem hang_nil (margin : Nat) : hang margin [] = [] := by
  simp [hang]

theorem hang_cons_of_not_isLineBoundary {c : Char} (h : isLineBoundary c = false) (margin : Nat)
    (rest : List Char) : hang margin (c :: rest) = c :: hang margin rest := by
  unfold hang
  rw [lines_cons_of_not_isLineBoundary h]
  cases lines rest with
  | nil => rfl
  | cons line more => rfl

theorem hang_cons_of_isLineBoundary {c : Char} (h : isLineBoundary c = true) (hcr : c ≠ '\r')
    (margin : Nat) (rest : List Char) : hang margin (c :: rest) = c :: indent margin rest := by
  rw [hang, lines_cons_of_isLineBoundary h hcr]
  rfl

/-- The first line of the text is blank; so is an empty text. -/
def startsBlank : List Char → Bool
  | [] => true
  | c :: rest => isLineBoundary c || (isBlank c && startsBlank rest)

theorem all_isBlank_of_lines {s line : List Char} {more : List (List Char)}
    (h : lines s = line :: more) : line.all isBlank = startsBlank s := by
  induction s generalizing line more with
  | nil => simp at h
  | cons c rest ih =>
    by_cases hc : isLineBoundary c = true
    · have hblank := isBlank_of_isLineBoundary hc
      by_cases hcr : c = '\r'
      · subst hcr
        cases rest with
        | nil =>
          obtain ⟨rfl, -⟩ : ['\r'] = line ∧ _ := by simpa [lines, hc] using h
          simp [startsBlank, hc, hblank]
        | cons d rest =>
          by_cases hlf : d = '\n'
          · subst hlf
            obtain ⟨rfl, -⟩ : ['\r', '\n'] = line ∧ _ := by simpa [lines] using h
            simp [startsBlank, hc, hblank, show isBlank '\n' = true from by decide]
          · rw [lines, if_pos hc] at h
            · obtain ⟨rfl, -⟩ := List.cons.inj h
              simp [startsBlank, hc, hblank]
            · rintro rest - ⟨rfl, -⟩
              exact hlf rfl
      · rw [lines_cons_of_isLineBoundary hc hcr] at h
        obtain ⟨rfl, -⟩ := List.cons.inj h
        simp [startsBlank, hc, hblank]
    · rw [Bool.not_eq_true] at hc
      rw [lines_cons_of_not_isLineBoundary hc] at h
      rw [startsBlank, hc, Bool.false_or]
      cases hrest : lines rest with
      | nil =>
        rw [hrest] at h
        obtain ⟨rfl, -⟩ := List.cons.inj h
        have hnil : rest = [] := by rw [← flatten_lines rest, hrest]; rfl
        simp [hnil, startsBlank]
      | cons first others =>
        rw [hrest] at h
        obtain ⟨rfl, -⟩ := List.cons.inj h
        rw [List.all_cons, ih hrest]

/-- A moved text is its margin, unless its first line is blank, and then the text
as it hangs from a line already begun. -/
theorem indent_eq (margin : Nat) (s : List Char) :
    indent margin s =
      (if startsBlank s then [] else List.replicate margin ' ') ++ hang margin s := by
  unfold indent hang
  cases h : lines s with
  | nil =>
    have hnil : s = [] := by rw [← flatten_lines s, h]; rfl
    simp [hnil, startsBlank]
  | cons line more =>
    rw [List.flatMap_cons, indentLine, all_isBlank_of_lines h]
    split <;> simp

theorem not_isLineBoundary_of_not_isBlank {c : Char} (h : isBlank c = false) :
    isLineBoundary c = false := by
  rw [Bool.eq_false_iff]
  intro hc
  rw [isBlank_of_isLineBoundary hc] at h
  exact absurd h (by decide)

/-- A text that begins with a visible character: what is in front of it when it is
moved is only its margin. -/
theorem indent_cons {c : Char} (h : isBlank c = false) (margin : Nat) (rest : List Char) :
    indent margin (c :: rest) = List.replicate margin ' ' ++ hang margin (c :: rest) := by
  have hline := not_isLineBoundary_of_not_isBlank h
  rw [indent_eq, startsBlank, hline, h]
  rfl

theorem trimLeft_indent {c : Char} (h : isBlank c = false) (margin : Nat) (rest : List Char) :
    trimLeft (indent margin (c :: rest)) = hang margin (c :: rest) := by
  have hline := not_isLineBoundary_of_not_isBlank h
  have hmargin : ∀ n, trimLeft (List.replicate n ' ' ++ hang margin (c :: rest)) =
      hang margin (c :: rest) := by
    intro n
    induction n with
    | zero => simp [trimLeft, hang_cons_of_not_isLineBoundary hline, h]
    | succ n ih =>
      have hspace : isBlank ' ' = true := by decide
      rw [List.replicate_succ, List.cons_append, trimLeft, List.dropWhile_cons_of_pos hspace]
      exact ih
  rw [indent_cons h]
  exact hmargin margin

/-- The boundaries that end a line of text but not a literal: all of them but the
carriage return and the line feed, which are escaped. -/
def isSoftBreak (c : Char) : Bool :=
  isLineBoundary c && c != '\r' && c != '\n'

/-- The displayed text has a soft break, and nothing but white space before it. -/
def breaksBlank : List Char → Bool
  | [] => false
  | c :: rest => isSoftBreak c || (isBlank c && c != '\r' && c != '\n' && breaksBlank rest)

/-- The displayed text that comes out when a literal is moved: the margin of every
line that a soft break begins is now in the literal. -/
def reflow (margin : Nat) : List Char → List Char
  | [] => []
  | c :: rest =>
    if isSoftBreak c && !breaksBlank rest then
      c :: (List.replicate margin ' ' ++ reflow margin rest)
    else c :: reflow margin rest

@[simp] theorem reflow_nil (margin : Nat) : reflow margin [] = [] := rfl

/-- Without a margin nothing comes in. -/
@[simp] theorem reflow_zero (v : List Char) : reflow 0 v = v := by
  induction v with
  | nil => rfl
  | cons c v ih =>
    rw [reflow]
    split
    · exact congrArg (c :: ·) ih
    · exact congrArg (c :: ·) ih

theorem isSoftBreak_space : isSoftBreak ' ' = false := by decide

theorem breaksBlank_replicate_append (n : Nat) (v : List Char) :
    breaksBlank (List.replicate n ' ' ++ v) = breaksBlank v := by
  induction n with
  | zero => rfl
  | succ n ih =>
    rw [List.replicate_succ, List.cons_append, breaksBlank, ih, isSoftBreak_space]
    rfl

theorem reflow_replicate_append (margin n : Nat) (v : List Char) :
    reflow margin (List.replicate n ' ' ++ v) = List.replicate n ' ' ++ reflow margin v := by
  induction n with
  | zero => rfl
  | succ n ih =>
    rw [List.replicate_succ, List.cons_append, reflow, isSoftBreak_space, Bool.false_and,
      if_neg (by decide), ih, List.cons_append]

theorem breaksBlank_reflow (margin : Nat) (v : List Char) :
    breaksBlank (reflow margin v) = breaksBlank v := by
  induction v with
  | nil => rfl
  | cons c v ih =>
    rw [reflow]
    split
    · rw [breaksBlank, breaksBlank, breaksBlank_replicate_append, ih]
    · rw [breaksBlank, breaksBlank, ih]

/-- Two moves are one: a text of a card, which is moved twice, comes out as if it
had been moved once by both margins together. -/
theorem reflow_reflow (margin inner : Nat) (v : List Char) :
    reflow margin (reflow inner v) = reflow (margin + inner) v := by
  induction v with
  | nil => rfl
  | cons c v ih =>
    by_cases h : (isSoftBreak c && !breaksBlank v) = true
    · have hinner : (isSoftBreak c &&
          !breaksBlank (List.replicate inner ' ' ++ reflow inner v)) = true := by
        rw [breaksBlank_replicate_append, breaksBlank_reflow, h]
      rw [reflow, if_pos h, reflow, if_pos hinner, reflow_replicate_append, ih, reflow, if_pos h,
        ← List.append_assoc, List.replicate_append_replicate]
    · have hinner : ¬ (isSoftBreak c && !breaksBlank (reflow inner v)) = true := by
        rwa [breaksBlank_reflow]
      rw [reflow, if_neg h, reflow, if_neg hinner, ih, reflow, if_neg h]

theorem reflow_of_all {v : List Char} (h : v.all (fun c => !isSoftBreak c) = true) (margin : Nat) :
    reflow margin v = v := by
  induction v with
  | nil => rfl
  | cons c v ih =>
    simp only [List.all_cons, Bool.and_eq_true, Bool.not_eq_true'] at h
    rw [reflow, h.1, Bool.false_and, if_neg (by decide), ih h.2]

theorem length_le_length_reflow (margin : Nat) (v : List Char) :
    v.length ≤ (reflow margin v).length := by
  induction v with
  | nil => exact Nat.le_refl _
  | cons c v ih =>
    rw [reflow]
    split
    · simp
      omega
    · simpa using ih

/-- Only a text without soft breaks is left alone: after the last soft break of a
text comes a line that is not blank, because the literal is closed on it. -/
theorem reflow_eq_iff {margin : Nat} (hmargin : 0 < margin) (v : List Char) :
    reflow margin v = v ↔ v.all (fun c => !isSoftBreak c) = true := by
  constructor
  · intro h
    induction v with
    | nil => rfl
    | cons c v ih =>
      rw [reflow] at h
      split at h
      · next =>
        have hlength := congrArg List.length h
        have hle := length_le_length_reflow margin v
        simp at hlength
        omega
      · next hc =>
        have hv := ih (List.cons.inj h).2
        simp only [List.all_cons, Bool.and_eq_true, Bool.not_eq_true']
        refine ⟨?_, hv⟩
        have hnone : breaksBlank v = false := by
          clear h hc ih
          induction v with
          | nil => rfl
          | cons d v ih =>
            simp only [List.all_cons, Bool.and_eq_true, Bool.not_eq_true'] at hv
            rw [breaksBlank, hv.1, ih hv.2, Bool.and_false, Bool.or_false]
        simpa [hnone] using hc
  · intro h
    exact reflow_of_all h margin

end Maquette.Text
