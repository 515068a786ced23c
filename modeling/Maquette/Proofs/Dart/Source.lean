import Maquette.Proofs.Dart.Scan

/-!
# Scanning literals of several lines

A literal in triple quotes goes on over line ends, and only three quotes in a row close
it: one or two of them stand for themselves. `scanSource` is a scanner that knows both
kinds of literals. It gives nothing where a text leaves this part of Dart, as `scan`
does, and also where a literal of several lines has a bare carriage return in it, which
Dart would take for a line end. A first line of such a literal with nothing but blanks
is not part of its value.

The text that is embedded is followed through `tripleQuotedChars`, which takes quotes
three at a time. What makes that work is that one or two quotes left over never meet a
third one: the next character is written as itself or with a backslash. Only at the end
of the text they would meet the closing quotes, so a text that is embedded must not end
in a quote.
-/

namespace Maquette.Dart

/-- What a scanner is in the middle of. The flag of a literal of several lines tells
whether it had nothing but blanks so far. -/
inductive SourceMode
  | code
  | comment (text : List Char)
  | quoted (value : List Char)
  | triple (blank : Bool) (value : List Char)

/-- The glyphs of a text, from the middle of what was begun. -/
@[simp] def scanSource : SourceMode → List Char → Option (List Glyph)
  | .code, [] => some []
  | .code, '\'' :: '\'' :: '\'' :: rest => scanSource (.triple true []) rest
  | .code, '/' :: '/' :: rest => scanSource (.comment []) rest
  | .code, c :: rest =>
    if c = '\'' then scanSource (.quoted []) rest
    else if c = '\x22' ∨ c = '/' ∧ rest.head? = some '*' then none
    else (scanSource .code rest).map (.char c :: ·)
  | .comment text, [] => some [.comment text]
  | .comment text, c :: rest =>
    if c = '\r' ∨ c = '\n' then (scanSource .code rest).map (.comment text :: .char c :: ·)
    else scanSource (.comment (text ++ [c])) rest
  | .quoted _, [] => none
  | .quoted value, '\\' :: c :: rest => do
    let stood ← escaped? c
    scanSource (.quoted (value ++ [stood])) rest
  | .quoted value, c :: rest =>
    if c = '\'' then (scanSource .code rest).map (.literal value :: ·)
    else if c = '\\' ∨ c = '$' ∨ c = '\r' ∨ c = '\n' then none
    else scanSource (.quoted (value ++ [c])) rest
  | .triple _ _, [] => none
  | .triple _ value, '\'' :: '\'' :: '\'' :: rest =>
    (scanSource .code rest).map (.literal value :: ·)
  | .triple _ value, '\\' :: c :: rest => do
    let stood ← escaped? c
    scanSource (.triple false (value ++ [stood])) rest
  | .triple blank value, c :: rest =>
    if c = '\\' ∨ c = '$' ∨ c = '\r' then none
    else if blank ∧ c = '\n' then scanSource (.triple false []) rest
    else scanSource (.triple (blank && (c == ' ' || c == '\t')) (value ++ [c])) rest

/-- The glyphs of a text that may have literals of several lines. -/
def lexSource (s : List Char) : Option (List Glyph) :=
  scanSource .code s

/-- A character that is neither a quote nor the beginning of a comment. -/
def isOrdinary (c : Char) : Bool :=
  c != '\'' && c != '\x22' && c != '/'

/-- Ordinary characters are scanned one by one. -/
theorem scanSource_ordinary {s : List Char} (h : s.all isOrdinary = true) (rest : List Char) :
    scanSource .code (s ++ rest) = (scanSource .code rest).map (chars s ++ ·) := by
  induction s with
  | nil => simp [chars]
  | cons c s ih =>
    rw [List.all_cons, Bool.and_eq_true] at h
    have hc := h.1
    simp only [isOrdinary, Bool.and_eq_true, bne_iff_ne] at hc
    have hstop : ¬(c = '\x22' ∨ c = '/' ∧ (s ++ rest).head? = some '*') := by
      rintro (hquote | ⟨hslash, -⟩)
      · exact hc.1.2 hquote
      · exact hc.2 hslash
    rw [List.cons_append, scanSource, if_neg hc.1.1, if_neg hstop, ih h.2, Option.map_map]
    · rfl
    · intro rest heq
      exact absurd heq hc.1.1
    · intro rest heq
      exact absurd heq hc.2

/-- A character that stands for itself in a literal on one line. -/
def isBare (c : Char) : Bool :=
  c != '\'' && c != '\\' && c != '$' && c != '\r' && c != '\n'

theorem scanSource_quoted {value : List Char} (h : value.all isBare = true)
    (soFar rest : List Char) :
    scanSource (.quoted soFar) (value ++ '\'' :: rest) =
      (scanSource .code rest).map (.literal (soFar ++ value) :: ·) := by
  induction value generalizing soFar with
  | nil => simp [scanSource]
  | cons c value ih =>
    rw [List.all_cons, Bool.and_eq_true] at h
    have hc := h.1
    simp only [isBare, Bool.and_eq_true, bne_iff_ne] at hc
    obtain ⟨⟨⟨⟨hquote, hslash⟩, hdollar⟩, hreturn⟩, hfeed⟩ := hc
    have hspecial : ¬(c = '\\' ∨ c = '$' ∨ c = '\r' ∨ c = '\n') := by
      rintro (h | h | h | h)
      · exact hslash h
      · exact hdollar h
      · exact hreturn h
      · exact hfeed h
    rw [List.cons_append, scanSource, if_neg hquote, if_neg hspecial, ih h.2, List.append_assoc,
      List.singleton_append]
    intro d more hc
    exact absurd hc hslash

/-- A character that is written for itself in a literal of several lines. -/
theorem scanSource_triple_self {c : Char} (hspecial : ¬(c = '\\' ∨ c = '$' ∨ c = '\r'))
    {rest : List Char} (hquotes : c = '\'' → ∀ more, rest ≠ '\'' :: '\'' :: more)
    (value : List Char) :
    scanSource (.triple false value) (c :: rest) =
      scanSource (.triple false (value ++ [c])) rest := by
  rw [scanSource, if_neg hspecial]
  · simp
  · intro more hc hrest
    exact hquotes hc more hrest
  · intro d more hc
    exact absurd (.inl hc) hspecial

theorem scanSource_triple_escape {c stood : Char} (h : escaped? c = some stood)
    (value rest : List Char) :
    scanSource (.triple false value) ('\\' :: c :: rest) =
      scanSource (.triple false (value ++ [stood])) rest := by
  rw [scanSource, h]
  rfl

/-- What is written for a text begins with a quote only if the text does. -/
theorem tripleQuotedChars_ne_quote {c : Char} (hc : c ≠ '\'') (s more tail : List Char) :
    tripleQuotedChars (c :: s) ++ tail ≠ '\'' :: more := by
  rw [tripleQuotedChars]
  · split
    · intro heq
      exact absurd (List.cons.inj heq).1 (by decide)
    split
    · intro heq
      exact absurd (List.cons.inj heq).1 (by decide)
    · intro heq
      exact hc (List.cons.inj heq).1
  · intro rest hquote
    exact absurd hquote hc

/-- Quotes that do not stand in threes are not written in twos, unless they are the
last of the text. -/
theorem tripleQuotedChars_ne_quotes {s : List Char} (hne : s ≠ [])
    (hquotes : ∀ more, s ≠ '\'' :: '\'' :: more) (hlast : s.getLast? ≠ some '\'')
    (more tail : List Char) : tripleQuotedChars s ++ tail ≠ '\'' :: '\'' :: more := by
  cases s with
  | nil => exact absurd rfl hne
  | cons c s =>
    by_cases hc : c = '\''
    · subst hc
      cases s with
      | nil => exact absurd rfl hlast
      | cons d s =>
        have hd : d ≠ '\'' := by
          rintro rfl
          exact hquotes s rfl
        have hfirst : tripleQuotedChars ('\'' :: d :: s) = '\'' :: tripleQuotedChars (d :: s) := by
          rw [tripleQuotedChars]
          · simp
          · intro rest _ hrest
            exact absurd (List.cons.inj hrest).1 hd
        rw [hfirst]
        intro heq
        exact tripleQuotedChars_ne_quote hd s more tail (List.cons.inj heq).2
    · exact tripleQuotedChars_ne_quote hc s ('\'' :: more) tail

theorem getLast?_ne_of_cons {c q : Char} {s : List Char} (h : (c :: s).getLast? ≠ some q) :
    s.getLast? ≠ some q := by
  cases s with
  | nil => simp
  | cons d s => rwa [List.getLast?_cons_cons] at h

/-- A text that is embedded in a literal of several lines is read as it is, whatever follows
it. -/
theorem scanSource_tripleQuotedChars_append {s : List Char} (hreturn : '\r' ∉ s)
    (hlast : s.getLast? ≠ some '\'') (value rest : List Char) :
    scanSource (.triple false value) (tripleQuotedChars s ++ rest) =
      scanSource (.triple false (value ++ s)) rest := by
  induction s using tripleQuotedChars.induct generalizing value with
  | case1 => rw [tripleQuotedChars, List.nil_append, List.append_nil]
  | case2 s ih =>
    have hquote : escaped? '\'' = some '\'' := rfl
    simp only [List.mem_cons, not_or] at hreturn
    have hrest := ih hreturn.2.2.2 (getLast?_ne_of_cons (getLast?_ne_of_cons
      (getLast?_ne_of_cons hlast)))
    simp only [tripleQuotedChars, List.cons_append]
    rw [scanSource_triple_escape hquote, scanSource_triple_escape hquote,
      scanSource_triple_escape hquote, hrest]
    simp only [List.append_assoc, List.cons_append, List.nil_append]
  | case3 s hquotes ih =>
    rw [List.mem_cons, not_or] at hreturn
    have hwritten : tripleQuotedChars ('\\' :: s) = '\\' :: '\\' :: tripleQuotedChars s := by
      simp [tripleQuotedChars]
    rw [hwritten, List.cons_append, List.cons_append, scanSource_triple_escape rfl,
      ih hreturn.2 (getLast?_ne_of_cons hlast), List.append_assoc, List.singleton_append]
  | case4 s hquotes hslash ih =>
    rw [List.mem_cons, not_or] at hreturn
    have hwritten : tripleQuotedChars ('$' :: s) = '\\' :: '$' :: tripleQuotedChars s := by
      simp [tripleQuotedChars]
    rw [hwritten, List.cons_append, List.cons_append, scanSource_triple_escape rfl,
      ih hreturn.2 (getLast?_ne_of_cons hlast), List.append_assoc, List.singleton_append]
  | case5 c s hquotes hslash hdollar ih =>
    rw [List.mem_cons, not_or] at hreturn
    have hwritten : tripleQuotedChars (c :: s) = c :: tripleQuotedChars s := by
      rw [tripleQuotedChars, if_neg hslash, if_neg hdollar]
      exact hquotes
    have hspecial : ¬(c = '\\' ∨ c = '$' ∨ c = '\r') := by
      rintro (h | h | h)
      · exact hslash h
      · exact hdollar h
      · exact hreturn.1 h.symm
    have hnext : c = '\'' → ∀ more, tripleQuotedChars s ++ rest ≠ '\'' :: '\'' :: more := by
      intro hc more
      refine tripleQuotedChars_ne_quotes ?_ (fun more => hquotes more hc)
        (getLast?_ne_of_cons hlast) more _
      rintro rfl
      exact hlast (congrArg some hc)
    rw [hwritten, List.cons_append, scanSource_triple_self hspecial hnext,
      ih hreturn.2 (getLast?_ne_of_cons hlast), List.append_assoc, List.singleton_append]

/-- A text that is embedded in a literal of several lines is its value. -/
theorem scanSource_tripleQuotedChars {s : List Char} (hreturn : '\r' ∉ s)
    (hlast : s.getLast? ≠ some '\'') (value rest : List Char) :
    scanSource (.triple false value) (tripleQuotedChars s ++ '\'' :: '\'' :: '\'' :: rest) =
      (scanSource .code rest).map (.literal (value ++ s) :: ·) := by
  rw [scanSource_tripleQuotedChars_append hreturn hlast, scanSource]

/-- An embedded text that begins with a brace, between its quotes. -/
theorem scanSource_embedded {s : List Char} (hreturn : '\r' ∉ s) (hlast : s.getLast? ≠ some '\'')
    (hbrace : s.head? = some '\x7b') (rest : List Char) :
    scanSource .code ('\'' :: '\'' :: '\'' ::
      (tripleQuotedChars s ++ '\'' :: '\'' :: '\'' :: rest)) =
      (scanSource .code rest).map (.literal s :: ·) := by
  cases s with
  | nil => cases hbrace
  | cons c s =>
    obtain rfl : c = '\x7b' := Option.some.inj hbrace
    rw [List.mem_cons, not_or] at hreturn
    have hwritten : tripleQuotedChars ('\x7b' :: s) = '\x7b' :: tripleQuotedChars s := by
      simp [tripleQuotedChars]
    have hfirst (rest : List Char) : scanSource (.triple true []) ('\x7b' :: rest) =
        scanSource (.triple false ['\x7b']) rest := by
      simp [scanSource]
    rw [scanSource, hwritten, List.cons_append, hfirst,
      scanSource_tripleQuotedChars hreturn.2 (getLast?_ne_of_cons hlast)]
    rfl

/-- A comment up to the end of its line. -/
theorem scanSource_comment {text : List Char} (h : ∀ c ∈ text, ¬(c = '\r' ∨ c = '\n'))
    (soFar rest : List Char) :
    scanSource (.comment soFar) (text ++ '\n' :: rest) =
      (scanSource .code rest).map (.comment (soFar ++ text) :: .char '\n' :: ·) := by
  induction text generalizing soFar with
  | nil => rw [List.nil_append, scanSource, if_pos (.inr rfl), List.append_nil]
  | cons c text ih =>
    rw [List.cons_append, scanSource, if_neg (h c List.mem_cons_self),
      ih fun d hd => h d (List.mem_cons_of_mem _ hd), List.append_assoc, List.singleton_append]

end Maquette.Dart
