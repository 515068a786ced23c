import Maquette.Proofs.Dart.Labels
import Maquette.Proofs.Dart.Plain

/-!
# Names in code

The names in a piece of code, as far as its text tells: the longest runs of characters
that a name may have, outside of literals and comments. Keywords and numerals are among
them, which does no harm where one asks for a few given names only. Code that has none
of the given names is `Free` of them, and for printed code this is a matter of the texts
in the tree that are taken over as code.
-/

namespace Maquette.Dart

/-- A character that a name may have. -/
def isNameChar (c : Char) : Bool :=
  c.isAlphanum || c == '_' || c == '$'

/-- A name that has ended, if one was begun. -/
def ended (name : List Char) : List String :=
  if name = [] then [] else [String.ofList name]

/-- The names in some code, when a name was begun in front of it. -/
def namesFrom (name : List Char) : List Glyph → List String
  | [] => ended name
  | .char c :: rest =>
    if isNameChar c then namesFrom (name ++ [c]) rest else ended name ++ namesFrom [] rest
  | .literal _ :: rest => ended name ++ namesFrom [] rest
  | .comment _ :: rest => ended name ++ namesFrom [] rest

/-- The names in some code, in order. -/
def names (gs : List Glyph) : List String :=
  namesFrom [] gs

theorem names_nil : names [] = [] := rfl

/-- A name ends at a character that names do not have. -/
theorem namesFrom_cons {c : Char} (h : isNameChar c = false) (name : List Char)
    (gs : List Glyph) : namesFrom name (.char c :: gs) = ended name ++ names gs := by
  rw [namesFrom, h, if_neg Bool.false_ne_true, names]

/-- No name goes on after a character that names do not have. -/
theorem namesFrom_append_cons {c : Char} (h : isNameChar c = false) (name : List Char)
    (gs hs : List Glyph) :
    namesFrom name (gs ++ .char c :: hs) = namesFrom name gs ++ names hs := by
  induction gs generalizing name with
  | nil => rw [List.nil_append, namesFrom_cons h, namesFrom]
  | cons g gs ih =>
    cases g with
    | char d =>
      simp only [List.cons_append, namesFrom]
      split
      · exact ih _
      · rw [ih, List.append_assoc]
    | literal value => rw [List.cons_append, namesFrom, namesFrom, ih, List.append_assoc]
    | comment text => rw [List.cons_append, namesFrom, namesFrom, ih, List.append_assoc]

theorem names_append_cons {c : Char} (h : isNameChar c = false) (gs hs : List Glyph) :
    names (gs ++ .char c :: hs) = names gs ++ names hs :=
  namesFrom_append_cons h [] gs hs

theorem names_cons {c : Char} (h : isNameChar c = false) (gs : List Glyph) :
    names (.char c :: gs) = names gs :=
  names_append_cons h [] gs

theorem names_blankGlyphs_append (margin : Nat) (gs : List Glyph) :
    names (blankGlyphs margin ++ gs) = names gs := by
  induction margin with
  | zero => rfl
  | succ n ih =>
    rw [blankGlyphs, List.replicate_succ]
    exact ih

theorem names_append_blankGlyphs {c : Char} (h : isNameChar c = false) (gs : List Glyph)
    (margin : Nat) (hs : List Glyph) :
    names (gs ++ (blankGlyphs margin ++ .char c :: hs)) = names gs ++ names hs := by
  cases margin with
  | zero => exact names_append_cons h gs hs
  | succ n =>
    have hblanks : blankGlyphs (n + 1) = .char ' ' :: blankGlyphs n := rfl
    rw [hblanks, List.cons_append, names_append_cons (by decide), names_blankGlyphs_append,
      names_cons h]

theorem names_append {gs : List Glyph} (h : WholeLines gs) (hs : List Glyph) :
    names (gs ++ hs) = names gs ++ names hs := by
  rcases h with rfl | ⟨line, rfl⟩
  · rfl
  · have hline : names (line ++ [.char '\n']) = names line ++ names [] :=
      names_append_cons (by decide) line []
    rw [hline, List.append_assoc]
    rw [names_nil, List.append_nil]
    exact names_append_cons (by decide) line hs

/-- No name goes on behind these characters. -/
def endsNames (s : List Char) : Bool :=
  s.getLast?.any (!isNameChar ·)

theorem names_chars_append {s : List Char} (h : endsNames s = true) (gs : List Glyph) :
    names (chars s ++ gs) = names (chars s) ++ names gs := by
  obtain ⟨c, hlast, hc⟩ := (Option.any_eq_true _ _).1 h
  obtain ⟨text, rfl⟩ := List.getLast?_eq_some_iff.1 hlast
  have hc : isNameChar c = false := by simpa using hc
  have hs : names (chars (text ++ [c])) = names (chars text) ++ names [] := by
    rw [chars_append]
    exact names_append_cons hc (chars text) []
  rw [hs, names_nil, List.append_nil, chars_append, List.append_assoc]
  exact names_append_cons hc (chars text) gs

/-- Moving code to the right changes none of its names. -/
theorem namesFrom_shift (margin : Nat) (name : List Char) (gs : List Glyph) :
    namesFrom name (shift margin gs) = namesFrom name gs := by
  induction gs generalizing name with
  | nil => rfl
  | cons g gs ih =>
    cases g with
    | char c =>
      rw [shift]
      split
      · next hline =>
        have hmargin := names_blankGlyphs_append margin (shift margin gs)
        rw [hline.1, namesFrom_cons (by decide), namesFrom_cons (by decide), hmargin, names, ih]
        rfl
      · rw [namesFrom, namesFrom, ih, ih]
    | literal value => rw [shift, namesFrom, namesFrom, ih]
    | comment text => rw [shift, namesFrom, namesFrom, ih]

theorem names_shift (margin : Nat) (gs : List Glyph) : names (shift margin gs) = names gs :=
  namesFrom_shift margin [] gs

/-- None of the given names is in the code. -/
def Free (taken : List String) (gs : List Glyph) : Prop :=
  ∀ name ∈ names gs, name ∉ taken

instance (taken : List String) (gs : List Glyph) : Decidable (Free taken gs) :=
  inferInstanceAs (Decidable (∀ name ∈ names gs, name ∉ taken))

section Free

variable {taken : List String}

theorem free_append_cons {c : Char} (h : isNameChar c = false) {gs hs : List Glyph} :
    Free taken (gs ++ .char c :: hs) ↔ Free taken gs ∧ Free taken hs := by
  rw [Free, names_append_cons h]
  exact List.forall_mem_append

theorem free_cons {c : Char} (h : isNameChar c = false) {gs : List Glyph} :
    Free taken (.char c :: gs) ↔ Free taken gs := by
  rw [Free, names_cons h, Free]

theorem free_blankGlyphs_append {margin : Nat} {gs : List Glyph} :
    Free taken (blankGlyphs margin ++ gs) ↔ Free taken gs := by
  rw [Free, names_blankGlyphs_append, Free]

theorem free_append_blankGlyphs {c : Char} (h : isNameChar c = false) {gs hs : List Glyph}
    {margin : Nat} :
    Free taken (gs ++ (blankGlyphs margin ++ .char c :: hs)) ↔ Free taken gs ∧ Free taken hs := by
  rw [Free, names_append_blankGlyphs h]
  exact List.forall_mem_append

theorem Free.append {gs hs : List Glyph} (hlines : WholeLines gs) (hgs : Free taken gs)
    (hhs : Free taken hs) : Free taken (gs ++ hs) := by
  rw [Free, names_append hlines]
  exact List.forall_mem_append.2 ⟨hgs, hhs⟩

theorem Free.chars_append {s : List Char} {gs : List Glyph} (hends : endsNames s = true)
    (hs : Free taken (chars s)) (hgs : Free taken gs) : Free taken (chars s ++ gs) := by
  rw [Free, names_chars_append hends]
  exact List.forall_mem_append.2 ⟨hs, hgs⟩

theorem free_nil : Free taken [] := fun _ h => nomatch h

theorem free_literal (value : List Char) : Free taken [.literal value] := fun _ h => nomatch h

/-- The runs of characters that names have, and nothing where there is none. -/
def runsFrom (run : List Char) : List Char → List (List Char)
  | [] => [run]
  | c :: rest => if isNameChar c then runsFrom (run ++ [c]) rest else run :: runsFrom [] rest

/-- None of the given words is a run of the text. To evaluate this takes less time than
to compare names. -/
def isFree (taken : List (List Char)) (s : List Char) : Bool :=
  (runsFrom [] s).all fun run => !taken.contains run

theorem toList_mem_runsFrom {run s : List Char} :
    ∀ name ∈ namesFrom run (chars s), name.toList ∈ runsFrom run s := by
  have hended (run : List Char) : ∀ name ∈ ended run, name.toList = run := by
    intro name hname
    unfold ended at hname
    split at hname
    · exact absurd hname List.not_mem_nil
    · rw [List.mem_singleton.1 hname, String.toList_ofList]
  induction s generalizing run with
  | nil =>
    intro name hname
    rw [hended run name hname]
    exact List.mem_singleton.2 rfl
  | cons c s ih =>
    change ∀ name ∈ namesFrom run (.char c :: chars s), _
    rw [namesFrom, runsFrom]
    split
    · exact ih
    · intro name hname
      rcases List.mem_append.1 hname with hhere | hrest
      · rw [hended run name hhere]
        exact List.mem_cons_self
      · exact List.mem_cons_of_mem _ (ih name hrest)

theorem free_of_isFree {s : List Char} {words : List (List Char)}
    (htaken : taken = words.map String.ofList) (h : isFree words s = true) :
    Free taken (chars s) := by
  intro name hname hmem
  rw [htaken] at hmem
  obtain ⟨word, hword, rfl⟩ := List.mem_map.1 hmem
  have hrun := toList_mem_runsFrom _ hname
  rw [String.toList_ofList] at hrun
  have hnot := List.all_eq_true.1 h word hrun
  rw [Bool.not_eq_true', List.contains_eq_mem, decide_eq_false_iff_not] at hnot
  exact hnot hword

/-- A run is made of characters of the text that it is in. -/
theorem all_of_mem_runsFrom {p : Char → Bool} {run s : List Char} (hrun : run.all p = true)
    (hs : s.all p = true) : ∀ found ∈ runsFrom run s, found.all p = true := by
  induction s generalizing run with
  | nil =>
    intro found hfound
    rw [List.mem_singleton.1 hfound]
    exact hrun
  | cons c s ih =>
    rw [List.all_cons, Bool.and_eq_true] at hs
    rw [runsFrom]
    split
    · exact ih (by rw [List.all_append, hrun, List.all_cons, hs.1]; rfl) hs.2
    · exact List.forall_mem_cons.2 ⟨hrun, ih rfl hs.2⟩

/-- Code of few characters is free of the names that have other characters. -/
theorem free_of_all {s : List Char} (p : Char → Bool) (hs : s.all p = true)
    (htaken : ∀ name ∈ taken, name.toList.all p = false) : Free taken (chars s) := by
  intro name hname hmem
  have hall := all_of_mem_runsFrom (List.all_nil (f := p)) hs _ (toList_mem_runsFrom name hname)
  rw [htaken name hmem] at hall
  exact Bool.false_ne_true hall

end Free

mutual

/-- No text of an expression that is taken over as code has one of the names. -/
def Expr.Avoids (taken : List String) : Expr → Prop
  | .code text => Free taken (chars text.toList)
  | .broken first more =>
    Free taken (chars first.toList) ∧ ∀ line ∈ more, Free taken (chars line.2.toList)
  | .text _ => True
  | .apply callee argument => Free taken (chars callee.toList) ∧ argument.Avoids taken
  | .call callee arguments => Free taken (chars callee.toList) ∧ ArgumentsAvoid taken arguments
  | .list items => ItemsAvoid taken items
  | .rows items => Free taken (chars (rowLines items).toList)
  | .closure parameters body => Free taken (chars parameters.toList) ∧ BodyAvoids taken body
  | .moved value => value.Avoids taken

/-- No text of some arguments that is taken over as code has one of the names. -/
def ArgumentsAvoid (taken : List String) : List Argument → Prop
  | [] => True
  | .positional value :: rest => value.Avoids taken ∧ ArgumentsAvoid taken rest
  | .named label value :: rest =>
    Free taken (chars label.toList) ∧ value.Avoids taken ∧ ArgumentsAvoid taken rest

/-- No text of some items that is taken over as code has one of the names. -/
def ItemsAvoid (taken : List String) : List Expr → Prop
  | [] => True
  | item :: rest => item.Avoids taken ∧ ItemsAvoid taken rest

/-- No text of some statements that is taken over as code has one of the names. -/
def BodyAvoids (taken : List String) : List Statement → Prop
  | [] => True
  | .line text :: rest => Free taken (lineGlyphs text) ∧ BodyAvoids taken rest
  | .result value :: rest => value.Avoids taken ∧ BodyAvoids taken rest
  | .block head body :: rest =>
    Free taken (chars head.toList) ∧ BodyAvoids taken body ∧ BodyAvoids taken rest
  | .gap :: rest => BodyAvoids taken rest

end

attribute [simp] Expr.Avoids ArgumentsAvoid ItemsAvoid BodyAvoids

section Avoids

variable {taken : List String}

theorem argumentsAvoid_append {arguments more : List Argument}
    (h : ArgumentsAvoid taken arguments) (hmore : ArgumentsAvoid taken more) :
    ArgumentsAvoid taken (arguments ++ more) := by
  induction arguments with
  | nil => exact hmore
  | cons argument rest ih =>
    cases argument with
    | positional value => exact ⟨h.1, ih h.2⟩
    | named label value => exact ⟨h.1, h.2.1, ih h.2.2⟩

theorem free_continuation (column : Nat) {more : List (Nat × String)}
    (h : ∀ line ∈ more, Free taken (chars line.2.toList)) {first : List Char}
    (hfirst : Free taken (chars first)) :
    Free taken (chars (first ++ (continuation column more).toList)) := by
  induction more generalizing first with
  | nil => simpa [continuation] using hfirst
  | cons line more ih =>
    have hline := ih (fun line hline => h line (List.mem_cons_of_mem _ hline))
      (h line List.mem_cons_self)
    have htext : chars (first ++ (continuation column (line :: more)).toList) =
        chars first ++ .char '\n' :: (blankGlyphs (column + line.1) ++
          chars (line.2.toList ++ (continuation column more).toList)) := by
      simp [continuation, toList_spaces, blankGlyphs, chars]
    rw [htext, free_append_cons (by decide), free_blankGlyphs_append]
    exact ⟨hfirst, hline⟩

mutual

/-- The code of an expression that avoids some names is free of them. -/
theorem Expr.free_glyphs (hreturn : "return" ∉ taken) (column : Nat) :
    ∀ e : Expr, e.Avoids taken → Free taken (e.glyphs column)
  | .code _, h => h
  | .broken _ _, h => by
    rw [Expr.glyphs, String.toList_append]
    exact free_continuation column h.2 h.1
  | .text value, _ => free_literal value.toList
  | .apply callee argument, h => by
    rw [Expr.glyphs, free_append_cons (by decide), free_append_cons (by decide)]
    exact ⟨h.1, argument.free_glyphs hreturn column h.2, free_nil⟩
  | .call callee arguments, h => by
    have harguments := free_argumentGlyphs hreturn (column + 2) arguments h.2
    rw [Expr.glyphs, free_append_cons (by decide), List.cons_append, List.cons_append,
      List.append_assoc, free_cons (by decide), free_append_blankGlyphs (by decide)]
    exact ⟨h.1, harguments, free_nil⟩
  | .list items, h => by
    have hitems := free_itemGlyphs hreturn (column + 2) items h
    rw [Expr.glyphs, free_cons (by decide), List.append_assoc, List.cons_append,
      free_cons (by decide), free_append_blankGlyphs (by decide)]
    exact ⟨hitems, free_nil⟩
  | .rows items, h => by
    rw [Expr.glyphs, free_cons (by decide), List.append_assoc, List.cons_append,
      free_cons (by decide), free_append_blankGlyphs (by decide)]
    exact ⟨h, free_nil⟩
  | .closure parameters body, h => by
    have hbody := free_bodyGlyphs hreturn (column + 2) body h.2
    rw [Expr.glyphs, free_append_cons (by decide), free_cons (by decide), List.append_assoc,
      List.cons_append, free_cons (by decide), free_append_blankGlyphs (by decide)]
    exact ⟨h.1, hbody, free_nil⟩
  | .moved value, h => by
    rw [Expr.glyphs, Free, names_shift]
    exact value.free_glyphs hreturn 0 h

theorem free_argumentGlyphs (hreturn : "return" ∉ taken) (column : Nat) :
    ∀ arguments : List Argument, ArgumentsAvoid taken arguments →
      Free taken (argumentGlyphs column arguments)
  | [], _ => free_nil
  | .positional value :: rest, h => by
    have hvalue := value.free_glyphs hreturn column h.1
    have hrest := free_argumentGlyphs hreturn column rest h.2
    rw [argumentGlyphs, List.append_assoc, List.append_assoc, free_blankGlyphs_append]
    exact (free_append_cons (by decide)).2 ⟨hvalue, (free_cons (by decide)).2 hrest⟩
  | .named label value :: rest, h => by
    have hvalue := value.free_glyphs hreturn column h.2.1
    have hrest := free_argumentGlyphs hreturn column rest h.2.2
    have hline := (free_append_cons (c := ',') (by decide)).2
      ⟨hvalue, (free_cons (c := '\n') (by decide)).2 hrest⟩
    rw [argumentGlyphs]
    simp only [List.append_assoc]
    rw [free_blankGlyphs_append]
    exact (free_append_cons (by decide)).2 ⟨h.1, (free_cons (by decide)).2 hline⟩

theorem free_itemGlyphs (hreturn : "return" ∉ taken) (column : Nat) :
    ∀ items : List Expr, ItemsAvoid taken items → Free taken (itemGlyphs column items)
  | [], _ => free_nil
  | item :: rest, h => by
    have hitem := item.free_glyphs hreturn column h.1
    have hrest := free_itemGlyphs hreturn column rest h.2
    rw [itemGlyphs, List.append_assoc, List.append_assoc, free_blankGlyphs_append]
    exact (free_append_cons (by decide)).2 ⟨hitem, (free_cons (by decide)).2 hrest⟩

theorem free_bodyGlyphs (hreturn : "return" ∉ taken) (column : Nat) :
    ∀ body : List Statement, BodyAvoids taken body → Free taken (bodyGlyphs column body)
  | [], _ => free_nil
  | .line text :: rest, h => by
    have hrest := free_bodyGlyphs hreturn column rest h.2
    rw [bodyGlyphs, List.append_assoc, List.append_assoc, free_blankGlyphs_append]
    exact (free_append_cons (by decide)).2 ⟨h.1, hrest⟩
  | .result value :: rest, h => by
    have hvalue := value.free_glyphs hreturn column h.1
    have hrest := free_bodyGlyphs hreturn column rest h.2
    have hline := (free_append_cons (c := ';') (by decide)).2
      ⟨hvalue, (free_cons (c := '\n') (by decide)).2 hrest⟩
    have hword : Free taken (chars "return ".toList) := by
      intro name hname
      rw [(by decide : names (chars "return ".toList) = ["return"]), List.mem_singleton] at hname
      rw [hname]
      exact hreturn
    rw [bodyGlyphs]
    simp only [List.append_assoc]
    rw [free_blankGlyphs_append]
    exact Free.chars_append (by decide) hword hline
  | .block head body :: rest, h => by
    have hbody := free_bodyGlyphs hreturn (column + 2) body h.2.1
    have hrest := free_bodyGlyphs hreturn column rest h.2.2
    rw [bodyGlyphs]
    simp only [List.append_assoc, List.cons_append, List.nil_append]
    rw [free_blankGlyphs_append, free_append_cons (by decide), free_cons (by decide),
      free_cons (by decide), free_append_blankGlyphs (by decide), free_cons (by decide)]
    exact ⟨h.1, hbody, hrest⟩
  | .gap :: rest, h => by
    rw [bodyGlyphs, free_cons (by decide)]
    exact free_bodyGlyphs hreturn column rest h

end

end Avoids

end Maquette.Dart
