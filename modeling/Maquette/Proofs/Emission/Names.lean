import Maquette.Proofs.Emission.Row
import Maquette.Proofs.Geometry.Value
import Maquette.Proofs.Widget.Names

/-!
# Which rows name a scale

Rows name the scales of the reference frame in the arguments that position their widgets
and nowhere else. A geometry in the reference frame names both scales, and a responsive
one names neither: that is all that the rows of a screen and the flag of the run have in
common, and it carries over from one row to the next.
-/

namespace Maquette

open Dart (Glyph names chars blankGlyphs Free)

/-- The names in the arguments that position widgets, from the inside of such arguments
or from the outside. They begin behind `Positioned` and end in front of the `child` that
is positioned. -/
def positionNamesFrom (inside : Bool) : List String → List String
  | [] => []
  | name :: rest =>
    if name = "Positioned" then positionNamesFrom true rest
    else if name = "child" then positionNamesFrom false rest
    else if inside then name :: positionNamesFrom true rest
    else positionNamesFrom false rest

/-- The names in the arguments that position widgets, apart from those of the widgets. -/
def positionNames (ns : List String) : List String :=
  positionNamesFrom false ns

theorem mem_of_mem_positionNamesFrom {inside : Bool} {ns : List String} {name : String}
    (h : name ∈ positionNamesFrom inside ns) : name ∈ ns := by
  induction ns generalizing inside with
  | nil => exact h
  | cons first ns ih =>
    rw [positionNamesFrom] at h
    split at h
    · exact List.mem_cons_of_mem _ (ih h)
    · split at h
      · exact List.mem_cons_of_mem _ (ih h)
      · split at h
        · rcases List.mem_cons.1 h with rfl | hrest
          · exact List.mem_cons_self
          · exact List.mem_cons_of_mem _ (ih hrest)
        · exact List.mem_cons_of_mem _ (ih h)

theorem mem_of_mem_positionNames {ns : List String} {name : String} (h : name ∈ positionNames ns) :
    name ∈ ns :=
  mem_of_mem_positionNamesFrom h

theorem positionNamesFrom_outside {ns : List String} (h : "Positioned" ∉ ns)
    (rest : List String) : positionNamesFrom false (ns ++ rest) = positionNames rest := by
  induction ns with
  | nil => rfl
  | cons name ns ih =>
    rw [List.mem_cons, not_or] at h
    rw [List.cons_append, positionNamesFrom, if_neg (Ne.symm h.1), ih h.2]
    simp

theorem positionNamesFrom_inside {ns : List String} (h : "Positioned" ∉ ns) (hchild : "child" ∉ ns)
    (rest : List String) :
    positionNamesFrom true (ns ++ "child" :: rest) = ns ++ positionNames rest := by
  induction ns with
  | nil => rfl
  | cons name ns ih =>
    rw [List.mem_cons, not_or] at h hchild
    rw [List.cons_append, positionNamesFrom, if_neg (Ne.symm h.1), if_neg (Ne.symm hchild.1),
      if_pos rfl, ih h.2 hchild.2, List.cons_append]

/-- The scale that values of a basis are multiples of. -/
def Basis.scale? : Basis → Option String
  | frameWidth => some scaleAcross
  | frameHeight => some scaleDown
  | pixels | viewportWidth | viewportHeight => none

/-- The names by which positions and scales are told apart. -/
def positionMarks : List String := "child" :: scopeNames

/-- The code of an extent names its scale, if it has one, and otherwise none of the
marks. -/
theorem Extent.exists_names_code_eq (e : Extent) :
    ∃ plain, (∀ name ∈ plain, name ∉ positionMarks) ∧
      names (chars e.code.toList) = plain ++ e.basis.scale?.toList := by
  have hmarks : ∀ name ∈ positionMarks, name.toList.all Dart.isWordChar = false := by decide
  have hliteral := e.value.free_literal_of hmarks
  have hfraction := e.value.free_fractionLiteral_of hmarks
  obtain ⟨x, basis⟩ := e
  have hside (side : String) (hends : Dart.endsNames side.toList = true)
      (hside : Free positionMarks (chars side.toList)) :
      ∃ plain, (∀ name ∈ plain, name ∉ positionMarks) ∧
        names (chars (side ++ x.literal).toList) = plain ++ [] := by
    refine ⟨_, ?_, (List.append_nil _).symm⟩
    rw [String.toList_append, Dart.chars_append]
    exact Dart.Free.chars_append hends hside hliteral
  have hscale (scale : String) (hscale : names (chars scale.toList) = [scale]) :
      ∃ plain, (∀ name ∈ plain, name ∉ positionMarks) ∧
        names (chars (x.fractionLiteral ++ " * " ++ scale).toList) = plain ++ [scale] := by
    refine ⟨_, hfraction, ?_⟩
    have htimes (gs : List Glyph) : chars " * ".toList ++ gs =
        .char ' ' :: .char '*' :: .char ' ' :: gs := rfl
    rw [String.toList_append, String.toList_append, Dart.chars_append, Dart.chars_append,
      List.append_assoc, htimes, Dart.names_append_cons (by decide), Dart.names_cons (by decide),
      Dart.names_cons (by decide), hscale]
  cases basis with
  | pixels => exact ⟨_, hfraction, (List.append_nil _).symm⟩
  | viewportWidth => exact hside "constraints.maxWidth * " (by decide) (by decide)
  | viewportHeight => exact hside "constraints.maxHeight * " (by decide) (by decide)
  | frameWidth => exact hscale Basis.scaleAcross (by decide)
  | frameHeight => exact hscale Basis.scaleDown (by decide)

namespace Geometry

/-- The arguments that position a widget, by their labels. -/
def arguments (g : Geometry) : List (String × Extent) :=
  [("left", g.left), ("top", g.top), ("width", g.width), ("height", g.height)]

/-- The names in the arguments that position a widget. -/
def placeNames (g : Geometry) : List String :=
  g.arguments.flatMap fun argument => argument.1 :: names (chars argument.2.code.toList)

theorem names_positionGlyphs_append (g : Geometry) (margin : Nat) (gs : List Glyph) :
    names (g.positionGlyphs margin ++ gs) = g.placeNames ++ names gs := by
  have hline (label name code : String) (hs : List Glyph)
      (hends : Dart.endsNames label.toList = true) (hlabel : names (chars label.toList) = [name]) :
      names (blankGlyphs margin ++ (chars (label ++ code ++ ",\n").toList ++ hs)) =
        name :: (names (chars code.toList) ++ names hs) := by
    have hlast (more : List Glyph) : chars ",\n".toList ++ more =
        .char ',' :: .char '\n' :: more := rfl
    rw [Dart.names_blankGlyphs_append, String.toList_append, String.toList_append,
      Dart.chars_append, Dart.chars_append, List.append_assoc, List.append_assoc, hlast, Dart.names_chars_append hends, hlabel,
      Dart.names_append_cons (by decide), Dart.names_cons (by decide)]
    rfl
  rw [positionGlyphs]
  simp only [List.append_assoc]
  rw [hline "  left: " "left" _ _ (by decide) (by decide),
    hline "  top: " "top" _ _ (by decide) (by decide),
    hline "  width: " "width" _ _ (by decide) (by decide),
    hline "  height: " "height" _ _ (by decide) (by decide)]
  simp [placeNames, arguments]

theorem names_rowGlyphs (g : Geometry) (margin : Nat) (child : List Glyph) :
    names (g.rowGlyphs margin child) =
      "Positioned" :: (g.placeNames ++ "child" :: names child) := by
  have hname : names (chars "Positioned".toList) = ["Positioned"] := by decide
  have hlabel : names (chars "  child: ".toList) = ["child"] := by decide
  have hlast : names (child ++ (chars [',', '\n'] ++ (blankGlyphs margin ++ [.char ')']))) =
      names child := by
    have hcomma (gs : List Glyph) : chars [',', '\n'] ++ gs = .char ',' :: .char '\n' :: gs := rfl
    rw [hcomma, Dart.names_append_cons (by decide), Dart.names_cons (by decide),
      Dart.names_blankGlyphs_append, Dart.names_cons (by decide), Dart.names_nil,
      List.append_nil]
  rw [rowGlyphs]
  simp only [List.append_assoc, List.cons_append]
  rw [Dart.names_blankGlyphs_append, Dart.names_append_cons (by decide), hname,
    Dart.names_cons (by decide), names_positionGlyphs_append, Dart.names_blankGlyphs_append,
    Dart.names_chars_append (by decide), hlabel, hlast]
  rfl

/-- Of the marks, a position has the scales of its extents and no other. -/
theorem mem_placeNames_iff {name : String} (hmark : name ∈ positionMarks) (g : Geometry) :
    name ∈ g.placeNames ↔ ∃ e ∈ g.extents, e.basis.scale? = some name := by
  have hlabels : ∀ label ∈ ["left", "top", "width", "height"], label ∉ positionMarks := by decide
  have hcode (e : Extent) : name ∈ names (chars e.code.toList) ↔ e.basis.scale? = some name := by
    obtain ⟨plain, hplain, hnames⟩ := e.exists_names_code_eq
    rw [hnames, List.mem_append, Option.mem_toList]
    exact or_iff_right fun hmem => hplain name hmem hmark
  have hargument (label : String) (hlabel : label ∈ ["left", "top", "width", "height"])
      (e : Extent) :
      name ∈ label :: names (chars e.code.toList) ↔ e.basis.scale? = some name := by
    rw [List.mem_cons, hcode]
    refine or_iff_right ?_
    rintro rfl
    exact hlabels name hlabel hmark
  simp only [placeNames, arguments, List.flatMap_cons, List.flatMap_nil, List.mem_append,
    hargument "left" (by decide), hargument "top" (by decide), hargument "width" (by decide),
    hargument "height" (by decide), extents, List.mem_cons, List.not_mem_nil, or_false,
    exists_eq_or_imp, exists_eq_left]

end Geometry

/-- The scales of the reference frame, in the order that they are declared in. -/
def scaleNames : List String := [Basis.scaleAcross, Basis.scaleDown]

theorem Basis.mem_scaleNames {b : Basis} {name : String} (h : b.scale? = some name) :
    name ∈ scaleNames := by
  cases b with
  | frameWidth => exact Option.some.inj h ▸ List.mem_cons_self
  | frameHeight => exact Option.some.inj h ▸ List.mem_cons_of_mem _ List.mem_cons_self
  | pixels => cases h
  | viewportWidth => cases h
  | viewportHeight => cases h

/-- A geometry in the reference frame names both scales, a responsive one neither. -/
theorem Geometry.mem_placeNames_iff_usesFrame {c : Component} {g : Geometry}
    (h : ofComponent c = .ok g) {scale : String} (hscale : scale ∈ scaleNames) :
    scale ∈ g.placeNames ↔ g.usesFrame = true := by
  have hmark : scale ∈ positionMarks :=
    (by decide : ∀ scale ∈ scaleNames, scale ∈ positionMarks) scale hscale
  rw [mem_placeNames_iff hmark]
  obtain ⟨x, y, across, down, -, ⟨left, top, width, height, -, rfl⟩ | rfl⟩ := cases_of_ofComponent h
  · have hnone (found : Option Binary64) (pixels : Binary64) (basis : Basis)
        (hbasis : basis.scale? = none) : (extentOf found pixels basis).basis.scale? = none := by
      cases found with
      | none => rfl
      | some value => exact hbasis
    constructor
    · rintro ⟨e, he, hname⟩
      simp only [extents, responsive, List.mem_cons, List.not_mem_nil, or_false] at he
      rcases he with rfl | rfl | rfl | rfl
      all_goals
        rw [hnone _ _ _ rfl] at hname
        cases hname
    · intro hframe
      cases hframe
  · refine iff_of_true ?_ rfl
    rcases List.mem_cons.1 hscale with rfl | hscale
    · exact ⟨⟨x, .frameWidth⟩, by simp [extents, framed], rfl⟩
    · rw [List.mem_singleton.1 hscale]
      exact ⟨⟨y, .frameHeight⟩, by simp [extents, framed], rfl⟩

/-- What is kept while rows are put one behind the other: the names of the rows tell
nothing of the stack or of declarations, and name each scale in positions only, and
exactly if a row is placed in the reference frame. -/
structure StackNames (ns : List String) (usesFrame : Bool) : Prop where
  stack_not_mem : "Stack" ∉ ns
  final_not_mem : "final" ∉ ns
  mem_positionNames_iff : ∀ scale ∈ scaleNames, scale ∈ positionNames ns ↔ usesFrame = true
  mem_positionNames : ∀ scale ∈ scaleNames, scale ∈ ns → scale ∈ positionNames ns

namespace StackNames

theorem nil : StackNames [] false where
  stack_not_mem := List.not_mem_nil
  final_not_mem := List.not_mem_nil
  mem_positionNames_iff scale _ := by simp [positionNames, positionNamesFrom]
  mem_positionNames scale _ h := absurd h List.not_mem_nil

/-- Other names in front. -/
theorem prefixed {ns before : List String} {usesFrame : Bool} (h : StackNames ns usesFrame)
    (hbefore : ∀ name ∈ before, name ∉ scopeNames) : StackNames (before ++ ns) usesFrame := by
  have hpositions : positionNames (before ++ ns) = positionNames ns :=
    positionNamesFrom_outside (fun hmem => hbefore _ hmem (by decide)) ns
  have hrest {name : String} (hscope : name ∈ scopeNames) (hmem : name ∈ before ++ ns) :
      name ∈ ns :=
    (List.mem_append.1 hmem).resolve_left fun hname => hbefore name hname hscope
  constructor
  · exact fun hmem => h.stack_not_mem (hrest (by decide) hmem)
  · exact fun hmem => h.final_not_mem (hrest (by decide) hmem)
  · rw [hpositions]
    exact h.mem_positionNames_iff
  · intro scale hscale hmem
    have hscope := (by decide : ∀ scale ∈ scaleNames, scale ∈ scopeNames) scale hscale
    rw [hpositions]
    exact h.mem_positionNames scale hscale (hrest hscope hmem)

/-- One more row in front. -/
theorem cons {ns : List String} {usesFrame : Bool} (h : StackNames ns usesFrame)
    {c : Component} {w : Widget} {g : Geometry} (hw : Widget.ofComponent c = .ok w)
    (hg : Geometry.ofComponent c = .ok g) (level : Int) :
    StackNames (names (w.rowGlyphs g level) ++ ns) (g.usesFrame || usesFrame) := by
  have hfree : ∀ name ∈ names (Dart.shift (Text.levelMargin (level + 1)) (w.expr.glyphs 0)),
      name ∉ scopeNames := by
    rw [Dart.names_shift]
    exact w.expr.free_glyphs (by decide) 0 (Widget.avoids_expr hw)
  have hrow := g.names_rowGlyphs (Text.levelMargin level)
    (Dart.shift (Text.levelMargin (level + 1)) (w.expr.glyphs 0))
  generalize names (Dart.shift (Text.levelMargin (level + 1)) (w.expr.glyphs 0)) = child
    at hrow hfree
  have hplace (name : String) (hmark : name ∈ positionMarks) (hscale : name ∉ scaleNames) :
      name ∉ g.placeNames := by
    intro hmem
    obtain ⟨e, -, he⟩ := (Geometry.mem_placeNames_iff hmark g).1 hmem
    exact hscale (Basis.mem_scaleNames he)
  have hpositions : positionNames (names (w.rowGlyphs g level) ++ ns) =
      g.placeNames ++ positionNames ns := by
    rw [Widget.rowGlyphs, hrow, List.cons_append, List.append_assoc, List.cons_append]
    have hinside := positionNamesFrom_inside (hplace "Positioned" (by decide) (by decide))
      (hplace "child" (by decide) (by decide)) (child ++ ns)
    rw [positionNames, positionNamesFrom, if_pos rfl, hinside, positionNames,
      positionNamesFrom_outside fun hmem => hfree _ hmem (by decide)]
  have hnames (name : String) (hscope : name ∈ scopeNames) (hne : name ≠ "Positioned") :
      name ∈ names (w.rowGlyphs g level) ++ ns ↔ name ∈ g.placeNames ∨ name ∈ ns := by
    have hchild : name ≠ "child" :=
      (by decide : ∀ name ∈ scopeNames, name ≠ "child") name hscope
    have hwidget : name ∉ child := fun hmem => hfree name hmem hscope
    rw [Widget.rowGlyphs, hrow]
    simp [hne, hchild, hwidget]
  have hscales : ∀ scale ∈ scaleNames, scale ∈ scopeNames ∧ scale ≠ "Positioned" := by decide
  constructor
  · rw [hnames "Stack" (by decide) (by decide), not_or]
    exact ⟨hplace "Stack" (by decide) (by decide), h.stack_not_mem⟩
  · rw [hnames "final" (by decide) (by decide), not_or]
    exact ⟨hplace "final" (by decide) (by decide), h.final_not_mem⟩
  · intro scale hscale
    rw [hpositions, List.mem_append, Geometry.mem_placeNames_iff_usesFrame hg hscale,
      h.mem_positionNames_iff scale hscale, Bool.or_eq_true]
  · intro scale hscale hmem
    rw [hpositions, List.mem_append]
    rcases (hnames scale (hscales scale hscale).1 (hscales scale hscale).2).1 hmem with hhere | hrest
    · exact .inl hhere
    · exact .inr (h.mem_positionNames scale hscale hrest)

end StackNames

end Maquette
