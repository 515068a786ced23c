import Maquette.Proofs.Dart.Plain
import Maquette.Proofs.Dart.Settings

/-!
# Code without labels

Numbers, colours and styles are code on one line without a colon, so no argument can be
set in them. Insets have colons, but only behind the names of their sides.
-/

namespace Maquette

namespace Dart

/-- A character that sets no argument and ends no line. -/
def isUnlabeled (c : Char) : Bool :=
  c != ':' && c != '\n'

/-- The text is code on one line in which no argument is set. -/
def Unlabeled (text : String) : Prop :=
  text.toList.all isUnlabeled = true

variable {text more : String}

theorem unlabeled_ofList {s : List Char} (h : s.all isUnlabeled = true) :
    Unlabeled (String.ofList s) := by
  rw [Unlabeled, String.toList_ofList]
  exact h

theorem unlabeled_of_all (h : text.toList.all isWordChar = true) : Unlabeled text := by
  rw [List.all_eq_true] at h
  rw [Unlabeled, List.all_eq_true]
  intro c hc
  have hcolon : c ≠ ':' := ne_of_isWordChar (h c hc) (by decide)
  have hline : c ≠ '\n' := ne_of_isWordChar (h c hc) (by decide)
  rw [isUnlabeled, bne_iff_ne.2 hcolon, bne_iff_ne.2 hline, Bool.and_self]

namespace Unlabeled

theorem append (h : Unlabeled text) (hmore : Unlabeled more) : Unlabeled (text ++ more) := by
  rw [Unlabeled, String.toList_append, List.all_append, Bool.and_eq_true]
  exact ⟨h, hmore⟩

theorem wrapped {left right : List Char} (h : Unlabeled text) (hleft : left.all isUnlabeled = true)
    (hright : right.all isUnlabeled = true) :
    Unlabeled (String.ofList left ++ text ++ String.ofList right) :=
  ((unlabeled_ofList hleft).append h).append (unlabeled_ofList hright)

theorem not_mem (h : Unlabeled text) {c : Char} (hc : isUnlabeled c = false) :
    c ∉ text.toList := by
  intro hmem
  rw [List.all_eq_true.1 h c hmem] at hc
  exact absurd hc (by decide)

end Unlabeled

theorem labelsFrom_chars {s : List Char} (h : ':' ∉ s) (word : List Char) :
    labelsFrom word (chars s) = [] := by
  induction s generalizing word with
  | nil => rfl
  | cons d s ih =>
    rw [List.mem_cons, not_or] at h
    change labelsFrom word (.char d :: chars s) = []
    rw [labelsFrom, if_neg (Ne.symm h.1), ih h.2, ih h.2, ite_self]

/-- A word that is no label ends where the next line begins. -/
theorem labelsFrom_append_newline (word : List Char) (gs hs : List Glyph) :
    labelsFrom word (gs ++ .char '\n' :: hs) = labelsFrom word gs ++ labels hs := by
  induction gs generalizing word with
  | nil => rfl
  | cons g gs ih =>
    cases g with
    | literal value => exact ih []
    | comment text => exact ih []
    | char d =>
      rw [List.cons_append, labelsFrom, labelsFrom, ih, ih]
      split
      · rfl
      · split <;> rfl

/-- Code that is broken over several lines has the labels of its lines. -/
theorem labels_append_continuation (word : List Char) (gs : List Glyph) (column : Nat)
    (more : List (Nat × String)) :
    labelsFrom word (gs ++ chars (continuation column more).toList) =
      labelsFrom word gs ++ more.flatMap fun line => labels (chars line.2.toList) := by
  induction more generalizing word gs with
  | nil =>
    rw [List.flatMap_nil, List.append_nil]
    exact congrArg (labelsFrom word) (List.append_nil gs)
  | cons line rest ih =>
    obtain ⟨deeper, text⟩ := line
    have hlines : chars (continuation column ((deeper, text) :: rest)).toList =
        .char '\n' :: (blankGlyphs (column + deeper) ++ (chars text.toList ++
          chars (continuation column rest).toList)) := by
      rw [continuation, String.toList_append, String.toList_append, String.toList_append,
        toList_spaces, chars_append, chars_append, chars_append, List.append_assoc,
        List.append_assoc, blankGlyphs]
      simp [chars]
    rw [hlines, labelsFrom_append_newline, labels_blankGlyphs_append, labels, ih,
      List.flatMap_cons]
    rfl

/-- Code on one line is clear of every label but those that are found in it. -/
theorem clear_of_labels {label : String} (found : List String)
    (h : labels (chars text.toList) = found) (hlabel : label ∉ found)
    (hline : '\n' ∉ text.toList) : Clear label text where
  not_mem := h ▸ hlabel
  line := hline

theorem Unlabeled.clear (h : Unlabeled text) (label : String) : Clear label text :=
  clear_of_labels [] (labelsFrom_chars (h.not_mem (by decide)) []) List.not_mem_nil
    (h.not_mem (by decide))

theorem clear_ofList {s : List Char} (h : s.all isUnlabeled = true) (label : String) :
    Clear label (String.ofList s) :=
  (unlabeled_ofList h).clear label

end Dart

open Dart (Unlabeled unlabeled_ofList unlabeled_of_all Clear labels chars)

theorem Binary64.unlabeled_literal (x : Binary64) : Unlabeled x.literal :=
  unlabeled_of_all x.all_isWordChar_literal

theorem Color.unlabeled_code (c : Color) : Unlabeled c.code := by
  cases c with
  | transparent => exact unlabeled_ofList (by decide)
  | black => exact unlabeled_ofList (by decide)
  | white => exact unlabeled_ofList (by decide)
  | argb a r g b =>
    refine Unlabeled.wrapped (unlabeled_of_all ?_) (by decide) (by decide)
    simp only [String.toList_ofList, List.all_append, all_isWordChar_channelText, Bool.and_self]

theorem TextAlign.unlabeled_code (align : TextAlign) : Unlabeled align.code := by
  cases align <;> exact unlabeled_ofList (by decide)

theorem BoxFit.unlabeled_code (fit : BoxFit) : Unlabeled fit.code := by
  cases fit <;> exact unlabeled_ofList (by decide)

theorem FontSize.unlabeled_code (size : FontSize) : Unlabeled size.code := by
  cases size with
  | fixed points => exact points.unlabeled_literal
  | ofWidth fraction => exact (unlabeled_ofList (by decide)).append fraction.unlabeled_literal

theorem unlabeled_cornerCode (radius : Binary64) : Unlabeled (cornerCode radius) :=
  radius.unlabeled_literal.wrapped (by decide) (by decide)

namespace Icon

theorem unlabeled_glyphOf (value : Json) : Unlabeled (glyphOf value) := by
  have hall : ∀ entry ∈ glyphs, Unlabeled entry.2 := by
    simp only [glyphs, List.forall_mem_cons]
    and_intros
    all_goals first
      | exact unlabeled_ofList (by decide)
      | exact fun _ h => absurd h List.not_mem_nil
  have hunknown : Unlabeled unknownGlyph := unlabeled_ofList (by decide)
  cases value with
  | string name =>
    rw [glyphOf]
    cases h : glyphs.lookup (Text.key name) with
    | none => exact hunknown
    | some glyph =>
      obtain ⟨before, after, hglyphs, -⟩ := List.lookup_eq_some_iff.1 h
      have hmem : (Text.key name, glyph) ∈ glyphs := by simp [hglyphs]
      exact hall _ hmem
  | _ => exact hunknown

end Icon

namespace Insets

variable {label : String}

/-- The labels of insets are the names of their sides. -/
theorem labels_code_symmetric (horizontal vertical : Binary64) :
    labels (chars (symmetric horizontal vertical).code.toList) = ["horizontal", "vertical"] := by
  have hfirst (gs : List Dart.Glyph) :
      labels (chars "EdgeInsets.symmetric(horizontal: ".toList ++ gs) =
        ["horizontal"] ++ labels gs := Dart.labels_ofList_append (by decide) gs
  have hsecond (gs : List Dart.Glyph) :
      labels (chars " vertical: ".toList ++ gs) = ["vertical"] ++ labels gs :=
    Dart.labels_ofList_append (by decide) gs
  have hbetween := Dart.labelsFrom_chars_append (c := ',')
    (horizontal.unlabeled_literal.not_mem (by decide)) (by decide) (by decide) []
    (chars " vertical: ".toList ++ chars (vertical.literal ++ ")").toList)
  have hlast : labels (chars (vertical.literal ++ ")").toList) = [] :=
    Dart.labelsFrom_chars ((vertical.unlabeled_literal.append
      (unlabeled_ofList (by decide))).not_mem (by decide)) []
  have hcode : (symmetric horizontal vertical).code.toList =
      "EdgeInsets.symmetric(horizontal: ".toList ++ (horizontal.literal.toList ++
        (", vertical: ".toList ++ (vertical.literal ++ ")").toList)) := by
    unfold code
    dsimp only
    rw [String.append_assoc, String.toList_append, String.toList_append, String.toList_append,
      List.append_assoc, List.append_assoc]
  rw [hsecond, hlast] at hbetween
  rw [hcode, Dart.chars_append, hfirst, Dart.chars_append, Dart.chars_append]
  exact congrArg (["horizontal"] ++ ·) hbetween

theorem clear_code (hhorizontal : label ≠ "horizontal") (hvertical : label ≠ "vertical")
    (insets : Insets) : Clear label insets.code := by
  cases insets with
  | all amount =>
    have hcode : Unlabeled ("EdgeInsets.all(" ++ amount.literal ++ ")") :=
      amount.unlabeled_literal.wrapped (by decide) (by decide)
    exact hcode.clear label
  | symmetric horizontal vertical =>
    have hfirst : '\n' ∉ "EdgeInsets.symmetric(horizontal: ".toList := by decide
    have hsecond : '\n' ∉ ", vertical: ".toList := by decide
    have hlast : '\n' ∉ ")".toList := by decide
    have hline (x : Binary64) : '\n' ∉ x.literal.toList :=
      x.unlabeled_literal.not_mem (by decide)
    refine Dart.clear_of_labels _ (labels_code_symmetric horizontal vertical) ?_ ?_
    · simp [hhorizontal, hvertical]
    · unfold code
      simp only [String.toList_append, List.mem_append, not_or]
      exact ⟨⟨⟨⟨hfirst, hline horizontal⟩, hsecond⟩, hline vertical⟩, hlast⟩

end Insets

end Maquette
