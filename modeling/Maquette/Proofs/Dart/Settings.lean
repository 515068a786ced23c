import Maquette.Proofs.Dart.Labels

/-!
# What arguments are set to

The value that a piece of code gives to a named argument, as far as its text tells: what
follows the label on its line, up to the comma at the end. Printed code sets every
argument on a line of its own, so reading the text gives the values back that the tree
has under the label, in order, and nothing else. The tree has to be clear of the label:
no text that is taken over as code has the label in it, and the values under the label
are code on one line.
-/

namespace Maquette.Dart

/-- The characters of some code up to the end of the line, literals and comments left
out. -/
def lineRest : List Glyph → List Char
  | [] => []
  | .char c :: rest => if c = '\n' then [] else c :: lineRest rest
  | _ :: rest => lineRest rest

/-- The value behind a label: the rest of its line without the blank in front and the
comma at the end. -/
def settingOf (gs : List Glyph) : String :=
  String.ofList ((lineRest gs).drop 1).dropLast

/-- The values of the arguments with a label, when a word was begun in front of the
code. -/
def settingsFrom (label : String) (word : List Char) : List Glyph → List String
  | [] => []
  | .char c :: rest =>
    if c.isAlphanum then settingsFrom label (word ++ [c]) rest
    else if c = ':' ∧ String.ofList word = label then settingOf rest :: settingsFrom label [] rest
    else settingsFrom label [] rest
  | _ :: rest => settingsFrom label [] rest

/-- The values of the arguments with a label, in order. -/
def settings (label : String) (gs : List Glyph) : List String :=
  settingsFrom label [] gs

section Scanning

variable {label : String} {c : Char}

/-- A word ends at a character that is no part of a word and no colon. -/
theorem settingsFrom_cons (hc : c.isAlphanum = false) (hcolon : c ≠ ':') (word : List Char)
    (gs : List Glyph) : settingsFrom label word (.char c :: gs) = settings label gs := by
  rw [settingsFrom, hc, if_neg Bool.false_ne_true, if_neg fun h => hcolon h.1, settings]

theorem settings_cons (hc : c.isAlphanum = false) (hcolon : c ≠ ':') (gs : List Glyph) :
    settings label (.char c :: gs) = settings label gs :=
  settingsFrom_cons hc hcolon [] gs

/-- Code without the label sets nothing, and a word that was begun in it ends at the next
character that is no part of a word. -/
theorem settingsFrom_append_cons (hc : c.isAlphanum = false) (hcolon : c ≠ ':')
    {word : List Char} {gs : List Glyph} (h : label ∉ labelsFrom word gs) (hs : List Glyph) :
    settingsFrom label word (gs ++ .char c :: hs) = settings label hs := by
  induction gs generalizing word with
  | nil => exact settingsFrom_cons hc hcolon word hs
  | cons g gs ih =>
    cases g with
    | literal value => exact ih h
    | comment text => exact ih h
    | char d =>
      rw [labelsFrom] at h
      rw [List.cons_append, settingsFrom]
      by_cases hd : d.isAlphanum = true
      · rw [if_pos hd] at h
        rw [if_pos hd]
        exact ih h
      · rw [if_neg hd] at h
        rw [if_neg hd]
        by_cases hlabel : d = ':'
        · rw [if_pos hlabel, List.mem_cons, not_or] at h
          rw [if_neg fun hword => h.1 hword.2.symm]
          exact ih h.2
        · rw [if_neg hlabel] at h
          rw [if_neg fun hword => hlabel hword.1]
          exact ih h

theorem settings_append_cons (hc : c.isAlphanum = false) (hcolon : c ≠ ':') {gs : List Glyph}
    (h : label ∉ labels gs) (hs : List Glyph) :
    settings label (gs ++ .char c :: hs) = settings label hs :=
  settingsFrom_append_cons hc hcolon h hs

theorem settings_blankGlyphs_append (margin : Nat) (gs : List Glyph) :
    settings label (blankGlyphs margin ++ gs) = settings label gs := by
  induction margin with
  | zero => rfl
  | succ n ih =>
    rw [blankGlyphs, List.replicate_succ]
    exact ih

theorem settings_append_blankGlyphs (hc : c.isAlphanum = false) (hcolon : c ≠ ':')
    {gs : List Glyph} (h : label ∉ labels gs) (margin : Nat) (hs : List Glyph) :
    settings label (gs ++ (blankGlyphs margin ++ .char c :: hs)) = settings label hs := by
  cases margin with
  | zero => exact settings_append_cons hc hcolon h hs
  | succ n =>
    have hblanks : blankGlyphs (n + 1) = .char ' ' :: blankGlyphs n := rfl
    rw [hblanks, List.cons_append, settings_append_cons (by decide) (by decide) h,
      settings_blankGlyphs_append, settings_cons hc hcolon]

/-- A word in front of a colon is either the label or another one. -/
theorem settingsFrom_word {word : List Char} (h : word.all Char.isAlphanum = true)
    (before : List Char) (gs : List Glyph) :
    settingsFrom label before (chars word ++ .char ':' :: gs) =
      if String.ofList (before ++ word) = label then settingOf gs :: settings label gs
      else settings label gs := by
  induction word generalizing before with
  | nil =>
    rw [List.append_nil]
    change settingsFrom label before (.char ':' :: gs) = _
    simp [settingsFrom, settings]
  | cons d word ih =>
    rw [List.all_cons, Bool.and_eq_true] at h
    change settingsFrom label before (.char d :: (chars word ++ .char ':' :: gs)) = _
    rw [settingsFrom, if_pos h.1, ih h.2, List.append_assoc, List.singleton_append]

theorem lineRest_shift (margin : Nat) (gs hs : List Glyph) :
    lineRest (shift margin gs ++ hs) = lineRest (gs ++ hs) := by
  induction gs with
  | nil => rfl
  | cons g gs ih =>
    cases g with
    | literal value => exact ih
    | comment text => exact ih
    | char d =>
      rw [shift]
      split
      · next hline =>
        rw [hline.1]
        rfl
      · rw [List.cons_append, List.cons_append, lineRest, lineRest, ih]

/-- Moving code to the right changes none of its values. -/
theorem settingsFrom_shift (margin : Nat) (word : List Char) (gs hs : List Glyph) :
    settingsFrom label word (shift margin gs ++ hs) = settingsFrom label word (gs ++ hs) := by
  induction gs generalizing word with
  | nil => rfl
  | cons g gs ih =>
    cases g with
    | literal value => exact ih []
    | comment text => exact ih []
    | char d =>
      rw [shift]
      split
      · next hline =>
        rw [hline.1, List.cons_append, List.cons_append, settingsFrom_cons (by decide) (by decide),
          settingsFrom_cons (by decide) (by decide), List.append_assoc,
          settings_blankGlyphs_append]
        exact ih []
      · rw [List.cons_append, List.cons_append, settingsFrom, settingsFrom, ih, ih, settingOf,
          lineRest_shift, settingOf]

theorem settings_shift (margin : Nat) (gs : List Glyph) :
    settings label (shift margin gs) = settings label gs := by
  have h : settingsFrom label [] (shift margin gs ++ []) = settingsFrom label [] (gs ++ []) :=
    settingsFrom_shift margin [] gs []
  rwa [List.append_nil, List.append_nil] at h

theorem lineRest_append_newline (gs : List Glyph) :
    lineRest (gs ++ [.char '\n']) = lineRest gs := by
  induction gs with
  | nil => rfl
  | cons g gs ih =>
    cases g with
    | literal value => exact ih
    | comment text => exact ih
    | char d => rw [List.cons_append, lineRest, lineRest, ih]

/-- The end of a text is as good as the end of a line. -/
theorem settingsFrom_append_newline (word : List Char) (gs : List Glyph) :
    settingsFrom label word (gs ++ [.char '\n']) = settingsFrom label word gs := by
  induction gs generalizing word with
  | nil => exact settingsFrom_cons (by decide) (by decide) word []
  | cons g gs ih =>
    cases g with
    | literal value => exact ih []
    | comment text => exact ih []
    | char d =>
      rw [List.cons_append, settingsFrom, settingsFrom, ih, ih, settingOf, lineRest_append_newline,
        settingOf]

theorem lineRest_chars_append {s : List Char} (h : '\n' ∉ s) (gs : List Glyph) :
    lineRest (chars s ++ gs) = s ++ lineRest gs := by
  induction s with
  | nil => rfl
  | cons d s ih =>
    rw [List.mem_cons, not_or] at h
    change lineRest (.char d :: (chars s ++ gs)) = _
    rw [lineRest, if_neg (Ne.symm h.1), ih h.2, List.cons_append]

/-- What follows a label on its line is its value. -/
theorem settingOf_line {text : String} (h : '\n' ∉ text.toList) (gs : List Glyph) :
    settingOf (.char ' ' :: (chars text.toList ++ .char ',' :: .char '\n' :: gs)) = text := by
  have hline : lineRest (.char ' ' :: (chars text.toList ++ .char ',' :: .char '\n' :: gs)) =
      ' ' :: (text.toList ++ [',']) := by
    rw [lineRest, if_neg (by decide), lineRest_chars_append h]
    rfl
  rw [settingOf, hline, List.drop_succ_cons, List.drop_zero, List.dropLast_concat,
    String.ofList_toList]

end Scanning

/-- The text is code on one line that has no such label. -/
structure Clear (label text : String) : Prop where
  not_mem : label ∉ labels (chars text.toList)
  line : '\n' ∉ text.toList

/-- The text of an expression that is code on one line. -/
def Expr.code? : Expr → Option String
  | .code line => some line
  | _ => none

mutual

/-- No text of an expression that is taken over as code has the label, and what is set
under the label is code on one line. -/
def Expr.ClearOf (label : String) : Expr → Prop
  | .code text => Clear label text
  | .broken first more =>
    ∀ column, label ∉ labels (chars (first ++ continuation column more).toList)
  | .text _ => True
  | .apply callee argument => Clear label callee ∧ argument.ClearOf label
  | .call callee arguments => Clear label callee ∧ ArgumentsClearOf label arguments
  | .list items => ItemsClearOf label items
  | .rows items => label ∉ labels (chars (rowLines items).toList)
  | .closure parameters body => Clear label parameters ∧ BodyClearOf label body
  | .moved value => value.ClearOf label

/-- The same of some arguments. -/
def ArgumentsClearOf (label : String) : List Argument → Prop
  | [] => True
  | .positional value :: rest => value.ClearOf label ∧ ArgumentsClearOf label rest
  | .named other value :: rest =>
    other.toList.all Char.isAlphanum = true ∧ (label = other → value.code?.isSome = true) ∧
      value.ClearOf label ∧ ArgumentsClearOf label rest

/-- The same of some items. -/
def ItemsClearOf (label : String) : List Expr → Prop
  | [] => True
  | item :: rest => item.ClearOf label ∧ ItemsClearOf label rest

/-- The same of some statements. -/
def BodyClearOf (label : String) : List Statement → Prop
  | [] => True
  | .line text :: rest => label ∉ labels (lineGlyphs text) ∧ BodyClearOf label rest
  | .result value :: rest => value.ClearOf label ∧ BodyClearOf label rest
  | .block head body :: rest => Clear label head ∧ BodyClearOf label body ∧ BodyClearOf label rest
  | .gap :: rest => BodyClearOf label rest

end

attribute [simp] Expr.ClearOf ArgumentsClearOf ItemsClearOf BodyClearOf

mutual

/-- The code that an expression sets under a label, in order. -/
def Expr.settings (label : String) : Expr → List String
  | .code _ | .broken _ _ | .text _ | .rows _ => []
  | .apply _ argument => argument.settings label
  | .call _ arguments => argumentSettings label arguments
  | .list items => itemSettings label items
  | .closure _ body => bodySettings label body
  | .moved value => value.settings label

/-- The code that some arguments set under a label. -/
def argumentSettings (label : String) : List Argument → List String
  | [] => []
  | .positional value :: rest => value.settings label ++ argumentSettings label rest
  | .named other value :: rest =>
    (if label = other then value.code?.toList else value.settings label) ++
      argumentSettings label rest

/-- The code that some items set under a label. -/
def itemSettings (label : String) : List Expr → List String
  | [] => []
  | item :: rest => item.settings label ++ itemSettings label rest

/-- The code that some statements set under a label. -/
def bodySettings (label : String) : List Statement → List String
  | [] => []
  | .line _ :: rest => bodySettings label rest
  | .result value :: rest => value.settings label ++ bodySettings label rest
  | .block _ body :: rest => bodySettings label body ++ bodySettings label rest
  | .gap :: rest => bodySettings label rest

end

section Printed

variable {label : String}

mutual

/-- What is set in the text of a clear expression is what its tree sets. -/
theorem Expr.settings_glyphs_append (column : Nat) {c : Char} (hc : c.isAlphanum = false)
    (hcolon : c ≠ ':') (hs : List Glyph) : ∀ e : Expr, e.ClearOf label →
      Dart.settings label (e.glyphs column ++ .char c :: hs) =
        e.settings label ++ Dart.settings label hs
  | .code _, h => settings_append_cons hc hcolon h.not_mem hs
  | .broken _ _, h => settings_append_cons hc hcolon (h column) hs
  | .text value, _ => settings_cons hc hcolon hs
  | .apply callee argument, h => by
    have hargument := argument.settings_glyphs_append column (c := ')') (by decide) (by decide)
      (.char c :: hs) h.2
    rw [settings_cons hc hcolon] at hargument
    rw [Expr.glyphs, List.append_assoc, List.cons_append, List.append_assoc,
      settings_append_cons (by decide) (by decide) h.1.not_mem]
    exact hargument
  | .call callee arguments, h => by
    have harguments := settings_argumentGlyphs_append (column + 2)
      (blankGlyphs column ++ .char ')' :: .char c :: hs) arguments h.2
    rw [settings_blankGlyphs_append, settings_cons (by decide) (by decide),
      settings_cons hc hcolon] at harguments
    rw [Expr.glyphs, List.append_assoc, List.cons_append,
      settings_append_cons (by decide) (by decide) h.1.not_mem]
    simp only [List.cons_append, List.append_assoc, List.nil_append]
    rw [settings_cons (by decide) (by decide)]
    exact harguments
  | .list items, h => by
    have hitems := settings_itemGlyphs_append (column + 2)
      (blankGlyphs column ++ .char ']' :: .char c :: hs) items h
    rw [settings_blankGlyphs_append, settings_cons (by decide) (by decide),
      settings_cons hc hcolon] at hitems
    rw [Expr.glyphs]
    simp only [List.cons_append, List.append_assoc, List.nil_append]
    rw [settings_cons (by decide) (by decide), settings_cons (by decide) (by decide)]
    exact hitems
  | .rows items, h => by
    rw [Expr.glyphs]
    simp only [List.cons_append, List.append_assoc, List.nil_append]
    rw [settings_cons (by decide) (by decide), settings_cons (by decide) (by decide),
      settings_append_blankGlyphs (by decide) (by decide) h, settings_cons hc hcolon]
    rfl
  | .closure parameters body, h => by
    have hbody := settings_bodyGlyphs_append (column + 2)
      (blankGlyphs column ++ .char '\x7d' :: .char c :: hs) body h.2
    rw [settings_blankGlyphs_append, settings_cons (by decide) (by decide),
      settings_cons hc hcolon] at hbody
    rw [Expr.glyphs]
    simp only [List.cons_append, List.append_assoc, List.nil_append]
    rw [settings_append_cons (by decide) (by decide) h.1.not_mem, settings_cons (by decide) (by decide),
      settings_cons (by decide) (by decide)]
    exact hbody
  | .moved value, h => by
    rw [Expr.glyphs, Dart.settings, settingsFrom_shift]
    exact value.settings_glyphs_append 0 hc hcolon hs h

theorem settings_argumentGlyphs_append (column : Nat) (hs : List Glyph) :
    ∀ arguments : List Argument, ArgumentsClearOf label arguments →
      Dart.settings label (argumentGlyphs column arguments ++ hs) =
        argumentSettings label arguments ++ Dart.settings label hs
  | [], _ => rfl
  | .positional value :: rest, h => by
    have hvalue := value.settings_glyphs_append column (c := ',') (by decide) (by decide)
      (.char '\n' :: (argumentGlyphs column rest ++ hs)) h.1
    have hrest := settings_argumentGlyphs_append column hs rest h.2
    rw [settings_cons (by decide) (by decide), hrest] at hvalue
    rw [argumentGlyphs, argumentSettings]
    simp only [List.append_assoc]
    rw [settings_blankGlyphs_append]
    exact hvalue
  | .named other value :: rest, h => by
    have hrest := settings_argumentGlyphs_append column hs rest h.2.2.2
    have hvalue := value.settings_glyphs_append column (c := ',') (by decide) (by decide)
      (.char '\n' :: (argumentGlyphs column rest ++ hs)) h.2.2.1
    rw [settings_cons (by decide) (by decide), hrest] at hvalue
    have hbehind (gs : List Glyph) : chars [':', ' '] ++ gs = .char ':' :: .char ' ' :: gs := rfl
    have hended (gs : List Glyph) : chars [',', '\n'] ++ gs = .char ',' :: .char '\n' :: gs := rfl
    rw [argumentGlyphs]
    simp only [List.append_assoc]
    rw [hbehind, hended, settings_blankGlyphs_append, Dart.settings, settingsFrom_word h.1,
      List.nil_append,
      String.ofList_toList, settings_cons (by decide) (by decide), hvalue]
    by_cases hlabel : label = other
    · cases value with
      | code text =>
        rw [if_pos hlabel.symm, Expr.glyphs, settingOf_line h.2.2.1.line, argumentSettings,
          if_pos hlabel]
        rfl
      | _ => exact absurd (h.2.1 hlabel) Bool.false_ne_true
    · rw [if_neg (Ne.symm hlabel), argumentSettings, if_neg hlabel, List.append_assoc]

theorem settings_itemGlyphs_append (column : Nat) (hs : List Glyph) :
    ∀ items : List Expr, ItemsClearOf label items →
      Dart.settings label (itemGlyphs column items ++ hs) =
        itemSettings label items ++ Dart.settings label hs
  | [], _ => rfl
  | item :: rest, h => by
    have hitem := item.settings_glyphs_append column (c := ',') (by decide) (by decide)
      (.char '\n' :: (itemGlyphs column rest ++ hs)) h.1
    have hrest := settings_itemGlyphs_append column hs rest h.2
    rw [settings_cons (by decide) (by decide), hrest] at hitem
    rw [itemGlyphs, itemSettings]
    simp only [List.append_assoc]
    rw [settings_blankGlyphs_append]
    exact hitem

theorem settings_bodyGlyphs_append (column : Nat) (hs : List Glyph) :
    ∀ body : List Statement, BodyClearOf label body →
      Dart.settings label (bodyGlyphs column body ++ hs) =
        bodySettings label body ++ Dart.settings label hs
  | [], _ => rfl
  | .line text :: rest, h => by
    have hrest := settings_bodyGlyphs_append column hs rest h.2
    rw [bodyGlyphs, bodySettings]
    simp only [List.append_assoc, List.cons_append, List.nil_append]
    rw [settings_blankGlyphs_append, settings_append_cons (by decide) (by decide) h.1]
    exact hrest
  | .result value :: rest, h => by
    have hrest := settings_bodyGlyphs_append column hs rest h.2
    have hvalue := value.settings_glyphs_append column (c := ';') (by decide) (by decide)
      (.char '\n' :: (bodyGlyphs column rest ++ hs)) h.1
    rw [settings_cons (by decide) (by decide), hrest] at hvalue
    have hword : label ∉ labels (chars "return".toList) := List.not_mem_nil
    have hreturn (gs : List Glyph) :
        Dart.settings label (chars "return ".toList ++ gs) = Dart.settings label gs :=
      settings_append_cons (c := ' ') (by decide) (by decide) hword gs
    rw [bodyGlyphs, bodySettings]
    simp only [List.append_assoc]
    rw [settings_blankGlyphs_append, hreturn]
    exact hvalue
  | .block head body :: rest, h => by
    have hrest := settings_bodyGlyphs_append column hs rest h.2.2
    have hbody := settings_bodyGlyphs_append (column + 2)
      (blankGlyphs column ++ .char '\x7d' :: .char '\n' :: (bodyGlyphs column rest ++ hs)) body h.2.1
    rw [settings_blankGlyphs_append, settings_cons (by decide) (by decide),
      settings_cons (by decide) (by decide), hrest] at hbody
    rw [bodyGlyphs, bodySettings]
    simp only [List.append_assoc, List.cons_append, List.nil_append]
    rw [settings_blankGlyphs_append, settings_append_cons (by decide) (by decide) h.1.not_mem,
      settings_cons (by decide) (by decide), settings_cons (by decide) (by decide)]
    exact hbody
  | .gap :: rest, h => by
    have hrest := settings_bodyGlyphs_append column hs rest h
    rw [bodyGlyphs, List.cons_append, settings_cons (by decide) (by decide), hrest]
    rfl

end

/-- What is set in the text of a clear expression, to its end, is what its tree sets. -/
theorem Expr.settings_glyphs {e : Expr} (h : e.ClearOf label) (column : Nat) :
    Dart.settings label (e.glyphs column) = e.settings label := by
  have hended := e.settings_glyphs_append column (c := '\n') (by decide) (by decide) [] h
  rw [Dart.settings, settingsFrom_append_newline] at hended
  rw [Dart.settings, hended]
  exact List.append_nil _

theorem argumentsClearOf_append {arguments more : List Argument}
    (h : ArgumentsClearOf label arguments) (hmore : ArgumentsClearOf label more) :
    ArgumentsClearOf label (arguments ++ more) := by
  induction arguments with
  | nil => exact hmore
  | cons argument rest ih =>
    cases argument with
    | positional value => exact ⟨h.1, ih h.2⟩
    | named other value => exact ⟨h.1, h.2.1, h.2.2.1, ih h.2.2.2⟩

theorem argumentSettings_append (arguments more : List Argument) :
    argumentSettings label (arguments ++ more) =
      argumentSettings label arguments ++ argumentSettings label more := by
  induction arguments with
  | nil => rfl
  | cons argument rest ih =>
    cases argument with
    | positional value => rw [List.cons_append, argumentSettings, ih, argumentSettings,
        List.append_assoc]
    | named other value => rw [List.cons_append, argumentSettings, ih, argumentSettings,
        List.append_assoc]

end Printed

end Maquette.Dart
