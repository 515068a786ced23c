import Maquette.Proofs.Dart.Legible

/-!
# Argument labels

Which arguments a piece of code has, as far as its text tells: the words that stand
directly in front of a colon, outside of literals and comments. A word ends at every
character that is no letter and no digit, so the labels of printed code can be read
off line by line.
-/

namespace Maquette.Dart

/-- The labels of some code, when a word was begun in front of it. -/
def labelsFrom (word : List Char) : List Glyph → List String
  | [] => []
  | .char c :: rest =>
    if c.isAlphanum then labelsFrom (word ++ [c]) rest
    else if c = ':' then String.ofList word :: labelsFrom [] rest
    else labelsFrom [] rest
  | _ :: rest => labelsFrom [] rest

/-- The labels of some code. -/
def labels (gs : List Glyph) : List String :=
  labelsFrom [] gs

/-- The code is made of whole lines. -/
def WholeLines (gs : List Glyph) : Prop :=
  gs = [] ∨ ∃ line, gs = line ++ [.char '\n']

namespace WholeLines

theorem newline (line : List Glyph) : WholeLines (line ++ [.char '\n']) :=
  .inr ⟨line, rfl⟩

/-- The last line ends in a character of code. -/
theorem ended (gs : List Glyph) (c : Char) : WholeLines (gs ++ chars [c, '\n']) := by
  have hlast : gs ++ chars [c, '\n'] = gs ++ [.char c] ++ [.char '\n'] := by simp [chars]
  rw [hlast]
  exact newline _

theorem append {gs hs : List Glyph} (hgs : WholeLines gs) (hhs : WholeLines hs) :
    WholeLines (gs ++ hs) := by
  rcases hhs with rfl | ⟨line, rfl⟩
  · rwa [List.append_nil]
  · rw [← List.append_assoc]
    exact newline _

end WholeLines

/-- No word goes on after a character that is no part of a word. -/
theorem labelsFrom_append_cons {c : Char} (h : c.isAlphanum = false) (word : List Char)
    (gs hs : List Glyph) :
    labelsFrom word (gs ++ .char c :: hs) = labelsFrom word (gs ++ [.char c]) ++ labels hs := by
  induction gs generalizing word with
  | nil =>
    rw [List.nil_append, List.nil_append, labelsFrom, labelsFrom, h]
    by_cases hc : c = ':'
    · simp [hc, labels, labelsFrom]
    · simp [hc, labels, labelsFrom]
  | cons g gs ih =>
    cases g with
    | char d =>
      simp only [List.cons_append, labelsFrom]
      split
      · exact ih _
      · split
        · exact congrArg (String.ofList word :: ·) (ih _)
        · exact ih _
    | literal value => exact ih _
    | comment text => exact ih _

theorem labels_append {gs : List Glyph} (h : WholeLines gs) (hs : List Glyph) :
    labels (gs ++ hs) = labels gs ++ labels hs := by
  rcases h with rfl | ⟨line, rfl⟩
  · rfl
  · rw [List.append_assoc]
    exact labelsFrom_append_cons (by decide) [] line hs

/-- Code without colons has no labels, and a word that was begun in it ends at the
next character that is no part of a word. -/
theorem labelsFrom_chars_append {s : List Char} (h : ':' ∉ s) {c : Char}
    (hc : c.isAlphanum = false) (hcolon : c ≠ ':') (word : List Char) (gs : List Glyph) :
    labelsFrom word (chars s ++ .char c :: gs) = labels gs := by
  induction s generalizing word with
  | nil => simp [chars, labelsFrom, hc, hcolon, labels]
  | cons d s ih =>
    rw [List.mem_cons, not_or] at h
    change labelsFrom word (.char d :: (chars s ++ .char c :: gs)) = _
    rw [labelsFrom, if_neg (Ne.symm h.1)]
    split
    · exact ih h.2 _
    · exact ih h.2 _

/-- A label is found in front of its colon. -/
theorem labelsFrom_label {label : List Char} (h : label.all Char.isAlphanum = true)
    (word : List Char) (gs : List Glyph) :
    labelsFrom word (chars label ++ .char ':' :: gs) =
      String.ofList (word ++ label) :: labels gs := by
  induction label generalizing word with
  | nil =>
    rw [List.append_nil]
    rfl
  | cons c label ih =>
    rw [List.all_cons, Bool.and_eq_true] at h
    change labelsFrom word (.char c :: (chars label ++ .char ':' :: gs)) = _
    rw [labelsFrom, if_pos h.1, ih h.2, List.append_assoc, List.singleton_append]

theorem labels_blankGlyphs_append (margin : Nat) (gs : List Glyph) :
    labels (blankGlyphs margin ++ gs) = labels gs := by
  induction margin with
  | zero => rfl
  | succ n ih =>
    rw [blankGlyphs, List.replicate_succ]
    exact ih

theorem wholeLines_argumentGlyphs (column : Nat) (arguments : List Argument) :
    WholeLines (argumentGlyphs column arguments) := by
  induction arguments with
  | nil => exact .inl rfl
  | cons argument rest ih =>
    cases argument with
    | positional value => exact (WholeLines.ended _ _).append ih
    | named label value => exact (WholeLines.ended _ _).append ih

/-- The labels of an argument: its own, and those in its value. -/
theorem labels_named {label : String} (h : label.toList.all Char.isAlphanum = true)
    (column : Nat) (value : Expr) (rest : List Argument) :
    labels (argumentGlyphs column (.named label value :: rest)) =
      label :: (labels (value.glyphs column ++ chars [',', '\n']) ++
        labels (argumentGlyphs column rest)) := by
  have hvalue : labels (value.glyphs column ++ chars [',', '\n'] ++ argumentGlyphs column rest) =
      labels (value.glyphs column ++ chars [',', '\n']) ++ labels (argumentGlyphs column rest) :=
    labels_append (WholeLines.ended _ _) _
  rw [← hvalue, argumentGlyphs]
  simp only [List.append_assoc]
  have hlabel := labelsFrom_label h [] (.char ' ' :: (value.glyphs column ++
    (chars [',', '\n'] ++ argumentGlyphs column rest)))
  rw [List.nil_append, String.ofList_toList] at hlabel
  rw [labels_blankGlyphs_append]
  exact hlabel

theorem labels_code (text : String) (h : ':' ∉ text.toList) (column : Nat) :
    labels ((Expr.code text).glyphs column ++ chars [',', '\n']) = [] :=
  labelsFrom_chars_append (c := ',') h (by decide) (by decide) [] _

/-- The labels of a call are those of its arguments. -/
theorem labels_call {callee : String} (h : ':' ∉ callee.toList) (column : Nat)
    (arguments : List Argument) {c : Char} (hc : c.isAlphanum = false) (hcolon : c ≠ ':') :
    labels ((Expr.call callee arguments).glyphs column ++ chars [c, '\n']) =
      labels (argumentGlyphs (column + 2) arguments) := by
  have hcallee := labelsFrom_chars_append (c := '(') h (by decide) (by decide) []
    (.char '\n' :: argumentGlyphs (column + 2) arguments ++ blankGlyphs column ++ [.char ')'] ++
      [.char c, .char '\n'])
  have hlast : labels [.char ')', .char c, .char '\n'] = [] := by
    simp [labels, labelsFrom, hc, hcolon]
  rw [Expr.glyphs, List.append_assoc]
  refine hcallee.trans ?_
  have hinside := labels_append (wholeLines_argumentGlyphs (column + 2) arguments)
    (blankGlyphs column ++ [.char ')', .char c, .char '\n'])
  rw [labels_blankGlyphs_append, hlast, List.append_nil] at hinside
  rw [← hinside]
  simp [labels, labelsFrom]

theorem wholeLines_bodyGlyphs (column : Nat) (body : List Statement) :
    WholeLines (bodyGlyphs column body) := by
  induction body with
  | nil => exact .inl rfl
  | cons statement rest ih =>
    cases statement with
    | line text =>
      have hline := WholeLines.newline (blankGlyphs column ++ lineGlyphs text)
      simpa [bodyGlyphs] using hline.append ih
    | result value => exact (WholeLines.ended _ _).append ih
    | block head inside =>
      have hline := WholeLines.newline (blankGlyphs column ++ chars head.toList ++ .char ' ' ::
        .char '\x7b' :: (.char '\n' :: bodyGlyphs (column + 2) inside ++ blankGlyphs column ++
          [.char '\x7d']))
      simpa [bodyGlyphs] using hline.append ih
    | gap => exact (WholeLines.newline []).append ih

/-- The labels of code that is written out, up to the end of a word. -/
theorem labels_ofList_append {s : List Char} {found : List String}
    (h : (labels (chars s) == found && s.getLast?.any (!·.isAlphanum)) = true) (gs : List Glyph) :
    labels (chars (String.ofList s).toList ++ gs) = found ++ labels gs := by
  rw [Bool.and_eq_true, Option.any_eq_true] at h
  obtain ⟨hfound, c, hlast, hc⟩ := h
  obtain ⟨text, rfl⟩ := List.getLast?_eq_some_iff.1 hlast
  rw [String.toList_ofList, ← eq_of_beq hfound, chars_append, List.append_assoc]
  exact labelsFrom_append_cons (by simpa using hc) [] (chars text) gs

theorem labels_gap (column : Nat) (rest : List Statement) :
    labels (bodyGlyphs column (.gap :: rest)) = labels (bodyGlyphs column rest) := rfl

theorem labels_line {text : String} (h : labels (lineGlyphs text ++ [.char '\n']) = [])
    (column : Nat) (rest : List Statement) :
    labels (bodyGlyphs column (.line text :: rest)) = labels (bodyGlyphs column rest) := by
  rw [bodyGlyphs, List.append_assoc, labels_blankGlyphs_append,
    labels_append (WholeLines.newline _), h, List.nil_append]

theorem labels_lineGlyphs {text : String} (hplain : Plain text) (h : ':' ∉ text.toList) :
    labels (lineGlyphs text ++ [.char '\n']) = [] := by
  rw [hplain.lineGlyphs_eq]
  exact labelsFrom_chars_append (c := '\n') h (by decide) (by decide) [] []

theorem labels_block {head : String} (h : ':' ∉ head.toList) (column : Nat)
    (body rest : List Statement) :
    labels (bodyGlyphs column (.block head body :: rest)) =
      labels (bodyGlyphs (column + 2) body) ++ labels (bodyGlyphs column rest) := by
  have hhead := labelsFrom_chars_append (c := ' ') h (by decide) (by decide) []
    (.char '\x7b' :: .char '\n' :: (bodyGlyphs (column + 2) body ++
      (blankGlyphs column ++ .char '\x7d' :: .char '\n' :: bodyGlyphs column rest)))
  have hinside := labels_append (wholeLines_bodyGlyphs (column + 2) body)
    (blankGlyphs column ++ .char '\x7d' :: .char '\n' :: bodyGlyphs column rest)
  rw [labels_blankGlyphs_append] at hinside
  rw [bodyGlyphs]
  simp only [List.append_assoc, List.cons_append, List.nil_append]
  rw [labels_blankGlyphs_append]
  exact hhead.trans hinside

theorem labels_result_call {callee : String} (h : ':' ∉ callee.toList) (column : Nat)
    (arguments : List Argument) (rest : List Statement) :
    labels (bodyGlyphs column (.result (.call callee arguments) :: rest)) =
      labels (argumentGlyphs (column + 2) arguments) ++ labels (bodyGlyphs column rest) := by
  have hreturn (gs : List Glyph) : labels (chars "return ".toList ++ gs) = labels gs :=
    labelsFrom_chars_append (s := "return".toList) (c := ' ') (by decide) (by decide) (by decide)
      [] gs
  have hline := labels_append (WholeLines.ended ((Expr.call callee arguments).glyphs column) ';')
    (bodyGlyphs column rest)
  rw [labels_call h column arguments (by decide) (by decide)] at hline
  rw [← hline, bodyGlyphs]
  simp only [List.append_assoc]
  rw [labels_blankGlyphs_append, hreturn]

end Maquette.Dart
