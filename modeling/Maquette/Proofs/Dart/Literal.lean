import Maquette.Conversion
import Maquette.Proofs.Dart.Source
import Mathlib.Data.List.DropRight

/-!
# Literals read back

A text is written as a literal in two ways, and both are to give the text back. Single
quotes do so for every text: the literal ends at its last character and not before, and
nothing in it is a line end or begins an interpolation.

Three quotes do so up to the ends of lines and of the text. A carriage return is written as
it is, and is read as a line feed. Quotes are written with backslashes three at a time, so
one or two that are left over at the end of the text join the closing ones: the literal ends
before them, and so many quotes are left behind it.
-/

namespace Maquette.Dart

open Conversion (displayedText)

/-- How many times a character stands at the end of a text, in a row. -/
def trailing (c : Char) (s : List Char) : Nat :=
  (s.rtakeWhile (· == c)).length

section Trailing

variable {c d : Char} {s : List Char}

theorem trailing_concat_self (c : Char) (s : List Char) :
    trailing c (s ++ [c]) = trailing c s + 1 := by
  rw [trailing, List.rtakeWhile_concat_pos _ _ _ (by simp), List.length_append,
    List.length_singleton, trailing]

theorem trailing_concat_of_ne (h : d ≠ c) (s : List Char) : trailing c (s ++ [d]) = 0 := by
  rw [trailing, List.rtakeWhile_concat_neg _ _ _ (by simpa using h), List.length_nil]

/-- A text is something that does not end in the character, and the character so many
times. -/
theorem exists_eq_append_replicate (c : Char) (s : List Char) :
    ∃ front, s = front ++ List.replicate (trailing c s) c ∧ front.getLast? ≠ some c := by
  refine ⟨s.rdropWhile (· == c), ?_, ?_⟩
  · have hreplicate : s.rtakeWhile (· == c) = List.replicate (trailing c s) c :=
      List.eq_replicate_iff.2 ⟨rfl, fun d hd => by simpa using List.mem_rtakeWhile_imp hd⟩
    rw [← hreplicate, List.rdropWhile_append_rtakeWhile]
  · intro hlast
    have hne : s.rdropWhile (· == c) ≠ [] := by
      intro hnil
      rw [hnil] at hlast
      cases hlast
    rw [List.getLast?_eq_some_getLast hne] at hlast
    exact List.rdropWhile_last_not _ _ hne (by simpa using hlast)

end Trailing

/-! ## Single quotes -/

section Quoted

variable {s begun before after : List Char}

/-- What a literal begins with is not closed. -/
theorem scan_begun (h : begun <+: s.flatMap quotedChar) (soFar : List Char) :
    scan (.literal soFar) begun = none := by
  induction s generalizing begun soFar with
  | nil =>
    rw [List.flatMap_nil, List.prefix_nil] at h
    rw [h, scan]
  | cons c s ih =>
    rw [List.flatMap_cons] at h
    rcases begun with - | ⟨first, begun⟩
    · rw [scan]
    rcases quotedChar_cases c with ⟨d, hquoted, hescaped, -, -⟩ | ⟨hquoted, h₁, h₂, h₃⟩
    · rw [hquoted, List.cons_append, List.singleton_append, List.cons_prefix_cons] at h
      obtain ⟨rfl, h⟩ := h
      rcases begun with - | ⟨second, begun⟩
      · simp [scan]
      · obtain ⟨rfl, hrest⟩ := List.cons_prefix_cons.1 h
        simpa [scan, hescaped] using ih hrest (soFar ++ [c])
    · rw [hquoted, List.singleton_append, List.cons_prefix_cons] at h
      obtain ⟨rfl, hrest⟩ := h
      rw [scan, if_neg h₂, if_neg h₁, if_neg h₃, ih hrest]

/-- In front of a dollar sign are whole characters and a backslash. -/
theorem exists_of_dollar (h : s.flatMap quotedChar = before ++ '$' :: after) :
    ∃ front : List Char, before = front.flatMap quotedChar ++ ['\\'] := by
  induction s generalizing before with
  | nil => simp at h
  | cons c s ih =>
    rw [List.flatMap_cons] at h
    rcases quotedChar_cases c with ⟨d, hquoted, -⟩ | ⟨hquoted, -, -, hplain⟩
    · rw [hquoted, List.cons_append, List.singleton_append] at h
      rcases before with - | ⟨first, before⟩
      · exact absurd (List.cons.inj h).1 (by decide)
      obtain ⟨rfl, htail⟩ := List.cons.inj h
      rcases before with - | ⟨second, before⟩
      · exact ⟨[], rfl⟩
      · obtain ⟨rfl, hrest⟩ := List.cons.inj htail
        obtain ⟨front, rfl⟩ := ih hrest
        exact ⟨c :: front, by rw [List.flatMap_cons, hquoted]; rfl⟩
    · rw [hquoted, List.singleton_append] at h
      rcases before with - | ⟨first, before⟩
      · exact absurd (.inl (List.cons.inj h).1) hplain
      · obtain ⟨rfl, hrest⟩ := List.cons.inj h
        obtain ⟨front, rfl⟩ := ih hrest
        exact ⟨c :: front, by rw [List.flatMap_cons, hquoted]; rfl⟩

/-- Backslashes at the end of whole characters come in twos. -/
theorem trailing_backslash_even (s : List Char) :
    trailing '\\' ('\'' :: s.flatMap quotedChar) % 2 = 0 := by
  induction s using List.reverseRecOn with
  | nil => rfl
  | append_singleton s c ih =>
    have hparts : '\'' :: (s ++ [c]).flatMap quotedChar =
        ('\'' :: s.flatMap quotedChar) ++ quotedChar c := by simp
    rw [hparts]
    by_cases hc : c = '\\'
    · have htwo : quotedChar c = ['\\'] ++ ['\\'] := by rw [hc]; rfl
      rw [htwo, ← List.append_assoc, trailing_concat_self, trailing_concat_self]
      omega
    · have hlast : ∃ front d, quotedChar c = front ++ [d] ∧ d ≠ '\\' := by
        unfold quotedChar
        split_ifs
        · exact ⟨['\\'], '\'', rfl, by decide⟩
        · exact ⟨['\\'], '$', rfl, by decide⟩
        · exact ⟨['\\'], 'r', rfl, by decide⟩
        · exact ⟨['\\'], 'n', rfl, by decide⟩
        · exact ⟨[], c, rfl, hc⟩
      obtain ⟨front, d, hquoted, hd⟩ := hlast
      rw [hquoted, ← List.append_assoc, trailing_concat_of_ne hd]

theorem quotedChars_eq (s : List Char) :
    quotedChars s = '\'' :: (s.flatMap quotedChar ++ ['\'']) := by
  simp [quotedChars]

theorem lex_quotedChars (s : List Char) : lex (quotedChars s) = some [.literal s] := by
  have h := scan_quotedChars s []
  rwa [List.append_nil] at h

theorem quotedChars_inj {t : List Char} (h : quotedChars s = quotedChars t) : s = t := by
  have hlex := (lex_quotedChars s).symm.trans (h ▸ lex_quotedChars t)
  simpa using hlex

theorem lex_begun (h : begun <+: quotedChars s) (hne : begun ≠ []) (hpart : begun ≠ quotedChars s) :
    lex begun = none := by
  rw [quotedChars_eq] at h hpart
  obtain ⟨first, begun, rfl⟩ := List.exists_cons_of_ne_nil hne
  obtain ⟨rfl, hrest⟩ := List.cons_prefix_cons.1 h
  rcases List.prefix_concat_iff.1 hrest with rfl | hbegun
  · exact absurd rfl hpart
  · rw [lex, scan, if_pos rfl, scan_begun hbegun]

theorem trailing_of_dollar (h : quotedChars s = before ++ '$' :: after) :
    trailing '\\' before % 2 = 1 := by
  rw [quotedChars_eq] at h
  rcases before with - | ⟨first, before⟩
  · exact absurd (List.cons.inj h).1 (by decide)
  obtain ⟨rfl, hrest⟩ := List.cons.inj h
  rcases List.eq_nil_or_concat after with rfl | ⟨after, last, rfl⟩
  · have hlast := congrArg List.getLast? hrest
    simp at hlast
  · have hbody : s.flatMap quotedChar ++ ['\''] = (before ++ '$' :: after) ++ [last] := by
      simpa using hrest
    obtain ⟨front, rfl⟩ := exists_of_dollar (List.append_inj' hbody rfl).1
    have heven := trailing_backslash_even front
    rw [← List.cons_append, trailing_concat_self]
    omega

theorem not_lineEnd_of_mem_quotedChars {c : Char} (h : c ∈ quotedChars s) :
    c ≠ '\r' ∧ c ≠ '\n' := by
  obtain rfl | hbody := List.mem_cons.1 (quotedChars_eq s ▸ h)
  · decide
  rcases List.mem_append.1 hbody with hchar | hlast
  · obtain ⟨d, -, hc⟩ := List.mem_flatMap.1 hchar
    rcases quotedChar_cases d with ⟨e, hquoted, -, hblank, -⟩ | ⟨hquoted, -, -, hplain⟩
    · rw [hquoted] at hc
      rcases List.mem_pair.1 hc with rfl | rfl
      · decide
      · constructor <;> rintro rfl <;> exact absurd hblank (by decide)
    · rw [hquoted, List.mem_singleton] at hc
      subst hc
      exact ⟨fun hc => hplain (.inr (.inl hc)), fun hc => hplain (.inr (.inr hc))⟩
  · rw [List.mem_singleton.1 hlast]
    decide

/-- In single quotes, a value is one literal that gives its displayed text back, which is
empty where there is no value. No beginning of the literal is closed, no line ends in
it, and each of its dollar signs has an odd number of backslashes in front. So different
texts have different literals. -/
theorem quoted_reads_back (value : Json) :
    let text := if value.isNull then "" else value.display
    let source := (quoted (displayedText value)).toList
    lex source = some [.literal text.toList] ∧
    (∀ rest, scan .code (source ++ rest) =
      (scan .code rest).map (.literal text.toList :: ·)) ∧
    (∀ begun, begun <+: source → begun ≠ [] → begun ≠ source → lex begun = none) ∧
    (∀ c ∈ source, c ≠ '\r' ∧ c ≠ '\n') ∧
    (∀ before after, source = before ++ '$' :: after → trailing '\\' before % 2 = 1) ∧
    ∀ other, quoted (displayedText other) = quoted (displayedText value) →
      displayedText other = displayedText value := by
  intro text source
  have hsource (value : Json) : (quoted (displayedText value)).toList =
      quotedChars (displayedText value).toList := String.toList_ofList
  have hchars : source = quotedChars text.toList := hsource value
  rw [hchars]
  refine ⟨lex_quotedChars _, scan_quotedChars _, fun begun => lex_begun,
    fun c => not_lineEnd_of_mem_quotedChars, fun before after => trailing_of_dollar,
    fun other hother => ?_⟩
  have hquoted := congrArg String.toList hother
  rw [hsource, hsource] at hquoted
  exact String.toList_inj.1 (quotedChars_inj hquoted)

theorem quoted_reads_back_price :
    (quoted (displayedText (.string "it's $5"))).toList = "'it\\'s \\$5'".toList ∧
      lex "'it\\'s \\$5".toList = none ∧ trailing '\\' "'it\\'s \\".toList % 2 = 1 ∧
      displayedText (.integer 5) = displayedText (.string "5") := by
  have hsource : (quoted (displayedText (.string "it's $5"))).toList = "'it\\'s \\$5'".toList := by
    decide
  obtain ⟨-, -, hbegun, -, hdollar, -⟩ := quoted_reads_back (.string "it's $5")
  obtain ⟨-, -, -, -, -, hinjective⟩ := quoted_reads_back (.string "5")
  rw [hsource] at hbegun hdollar
  exact ⟨hsource, hbegun _ (by decide) (by decide) (by decide), hdollar _ "5'".toList (by decide),
    hinjective (.integer 5) (by decide)⟩

end Quoted

/-! ## Three quotes -/

/-- Lines that end in line feeds, whatever they ended in. -/
def lineFeeds : List Char → List Char
  | [] => []
  | c :: rest =>
    if c = '\r' then if rest.head? = some '\n' then lineFeeds rest else '\n' :: lineFeeds rest
    else c :: lineFeeds rest

/-- The glyphs of a text behind the three quotes that open a literal, every end of a line
being read as a line feed. No line is left out, even if the first one is blank. -/
def lexLines (s : List Char) : Option (List Glyph) :=
  scanSource (.triple false []) (lineFeeds s)

section TripleQuoted

variable {c : Char} {s : List Char}

theorem lineFeeds_cons_self (hc : c ≠ '\r') (rest : List Char) :
    lineFeeds (c :: rest) = c :: lineFeeds rest := by
  rw [lineFeeds, if_neg hc]

theorem return_notMem_lineFeeds (s : List Char) : '\r' ∉ lineFeeds s := by
  induction s with
  | nil => exact List.not_mem_nil
  | cons c rest ih =>
    rw [lineFeeds]
    split_ifs with hc hnext
    · exact ih
    · simpa using ih
    · simpa [Ne.symm hc] using ih

theorem lineFeeds_eq_self_iff : lineFeeds s = s ↔ '\r' ∉ s := by
  constructor
  · intro h
    rw [← h]
    exact return_notMem_lineFeeds s
  · intro h
    induction s with
    | nil => rfl
    | cons c rest ih =>
      rw [List.mem_cons, not_or] at h
      rw [lineFeeds_cons_self (Ne.symm h.1), ih h.2]

/-- A quote comes from a quote. -/
theorem exists_of_lineFeeds_eq_cons {rest : List Char} (h : lineFeeds s = '\'' :: rest) :
    ∃ more, s = '\'' :: more ∧ lineFeeds more = rest := by
  rcases s with - | ⟨c, s⟩
  · cases h
  by_cases hc : c = '\r'
  · rw [lineFeeds, if_pos hc] at h
    split_ifs at h with hnext
    · rcases s with - | ⟨d, s⟩
      · cases h
      · obtain rfl : d = '\n' := Option.some.inj hnext
        rw [lineFeeds_cons_self (by decide)] at h
        exact absurd (List.cons.inj h).1 (by decide)
    · exact absurd (List.cons.inj h).1 (by decide)
  · rw [lineFeeds_cons_self hc] at h
    obtain ⟨rfl, hrest⟩ := List.cons.inj h
    exact ⟨s, rfl, hrest⟩

theorem tripleQuotedChars_cons_self (hslash : c ≠ '\\') (hdollar : c ≠ '$')
    (hquotes : c = '\'' → ∀ more, s ≠ '\'' :: '\'' :: more) :
    tripleQuotedChars (c :: s) = c :: tripleQuotedChars s := by
  rw [tripleQuotedChars, if_neg hslash, if_neg hdollar]
  intro more hc hs
  exact hquotes hc more hs

theorem head?_tripleQuotedChars_append {rest : List Char} (hrest : rest.head? ≠ some '\n') :
    (tripleQuotedChars s ++ rest).head? = some '\n' ↔ s.head? = some '\n' := by
  cases s using tripleQuotedChars.induct with
  | case1 => simpa [tripleQuotedChars] using hrest
  | case2 s => simp [tripleQuotedChars]
  | case3 s hquotes => simp [tripleQuotedChars]
  | case4 s hquotes hslash => simp [tripleQuotedChars]
  | case5 c s hquotes hslash hdollar =>
    rw [tripleQuotedChars_cons_self hslash hdollar fun hc more => hquotes more hc]
    rfl

/-- The ends of lines can be made line feeds before a text is written or after it. -/
theorem lineFeeds_tripleQuotedChars (s : List Char) {rest : List Char}
    (hrest : rest.head? ≠ some '\n') :
    lineFeeds (tripleQuotedChars s ++ rest) =
      tripleQuotedChars (lineFeeds s) ++ lineFeeds rest := by
  induction s using tripleQuotedChars.induct with
  | case1 => rfl
  | case2 s ih =>
    simp [tripleQuotedChars, lineFeeds_cons_self, ih]
  | case3 s hquotes ih =>
    simp [tripleQuotedChars, lineFeeds_cons_self, ih]
  | case4 s hquotes hslash ih =>
    simp [tripleQuotedChars, lineFeeds_cons_self, ih]
  | case5 c s hquotes hslash hdollar ih =>
    rw [tripleQuotedChars_cons_self hslash hdollar (fun hc more => hquotes more hc),
      List.cons_append, lineFeeds, lineFeeds]
    simp only [head?_tripleQuotedChars_append hrest, ih]
    split_ifs with hc hnext
    · rfl
    · have hquote : '\n' = '\'' → ∀ more, lineFeeds s ≠ '\'' :: '\'' :: more :=
        fun hc => absurd hc (by decide)
      rw [tripleQuotedChars_cons_self (by decide) (by decide) hquote, List.cons_append]
    · rw [tripleQuotedChars_cons_self hslash hdollar, List.cons_append]
      intro hquote more heq
      obtain ⟨more', rfl, hmore⟩ := exists_of_lineFeeds_eq_cons heq
      obtain ⟨more'', rfl, -⟩ := exists_of_lineFeeds_eq_cons hmore
      exact hquotes _ hquote rfl

/-- Quotes that are in a text do not join those that follow it, unless they are its last
ones. -/
theorem append_ne_quotes (hquotes : ∀ more, s ≠ '\'' :: '\'' :: more) (hne : s ≠ [])
    (hlast : s.getLast? ≠ some '\'') (rest more : List Char) :
    s ++ rest ≠ '\'' :: '\'' :: more := by
  intro heq
  rcases s with - | ⟨c, - | ⟨d, s⟩⟩
  · exact hne rfl
  · obtain rfl := (List.cons.inj heq).1
    exact hlast rfl
  · obtain ⟨rfl, hrest⟩ := List.cons.inj heq
    obtain ⟨rfl, -⟩ := List.cons.inj hrest
    exact hquotes s rfl

theorem tripleQuotedChars_append (hlast : s.getLast? ≠ some '\'') (rest : List Char) :
    tripleQuotedChars (s ++ rest) = tripleQuotedChars s ++ tripleQuotedChars rest := by
  induction s using tripleQuotedChars.induct with
  | case1 => rfl
  | case2 s ih =>
    have hrest := ih (getLast?_ne_of_cons (getLast?_ne_of_cons (getLast?_ne_of_cons hlast)))
    simp only [List.cons_append, tripleQuotedChars, hrest]
  | case3 s hquotes ih => simp [tripleQuotedChars, ih (getLast?_ne_of_cons hlast)]
  | case4 s hquotes hslash ih => simp [tripleQuotedChars, ih (getLast?_ne_of_cons hlast)]
  | case5 c s hquotes hslash hdollar ih =>
    have hjoined : c = '\'' → ∀ more, s ++ rest ≠ '\'' :: '\'' :: more := by
      intro hc more
      refine append_ne_quotes (fun more => hquotes more hc) ?_ (getLast?_ne_of_cons hlast) rest more
      rintro rfl
      exact hlast (congrArg some hc)
    rw [List.cons_append, tripleQuotedChars_cons_self hslash hdollar hjoined,
      tripleQuotedChars_cons_self hslash hdollar fun hc more => hquotes more hc,
      ih (getLast?_ne_of_cons hlast), List.cons_append]

/-- Of a row of quotes, those that stand in threes are read as they are. -/
theorem scanSource_quotes (value rest : List Char) (k n : Nat) :
    scanSource (.triple false value)
        (tripleQuotedChars (List.replicate (3 * k + n) '\'') ++ rest) =
      scanSource (.triple false (value ++ List.replicate (3 * k) '\''))
        (tripleQuotedChars (List.replicate n '\'') ++ rest) := by
  have hquote : escaped? '\'' = some '\'' := rfl
  induction k generalizing value with
  | zero => simp
  | succ k ih =>
    have hrow (n : Nat) : List.replicate (3 * (k + 1) + n) '\'' =
        '\'' :: '\'' :: '\'' :: List.replicate (3 * k + n) '\'' := by
      rw [show 3 * (k + 1) + n = 3 * k + n + 1 + 1 + 1 by omega]
      rfl
    rw [hrow, tripleQuotedChars]
    simp only [List.cons_append]
    rw [scanSource_triple_escape hquote, scanSource_triple_escape hquote,
      scanSource_triple_escape hquote, ih, ← Nat.add_zero (3 * (k + 1)), hrow]
    simp

/-- Fewer than three quotes in front of the closing ones are left behind the literal. -/
theorem scanSource_closing (value : List Char) {n : Nat} (hn : n < 3) :
    scanSource (.triple false value)
        (tripleQuotedChars (List.replicate n '\'') ++ ['\'', '\'', '\'']) =
      (scanSource .code (List.replicate n '\'')).map (.literal value :: ·) := by
  match n, hn with
  | 0, _ => rfl
  | 1, _ => rfl
  | 2, _ => rfl

/-- A text without carriage returns is read as it is, but for the quotes at its end that
are left over from threes. -/
theorem exists_scanSource_tripleQuotedChars (hreturn : '\r' ∉ s) :
    ∃ value, s = value ++ List.replicate (trailing '\'' s % 3) '\'' ∧
      scanSource (.triple false []) (tripleQuotedChars s ++ ['\'', '\'', '\'']) =
        (scanSource .code (List.replicate (trailing '\'' s % 3) '\'')).map
          (.literal value :: ·) := by
  obtain ⟨front, hs, hlast⟩ := exists_eq_append_replicate '\'' s
  generalize htrailing : trailing '\'' s = n at hs
  obtain ⟨k, r, hr, rfl⟩ : ∃ k r, r < 3 ∧ n = 3 * k + r :=
    ⟨n / 3, n % 3, Nat.mod_lt _ (by decide), (Nat.div_add_mod n 3).symm⟩
  have hmod : (3 * k + r) % 3 = r := by omega
  refine ⟨front ++ List.replicate (3 * k) '\'', ?_, ?_⟩
  · rw [hs, hmod, List.append_assoc, List.replicate_append_replicate]
  · have hfront : '\r' ∉ front := fun h => hreturn (hs ▸ List.mem_append_left _ h)
    rw [hs, tripleQuotedChars_append hlast, List.append_assoc,
      scanSource_tripleQuotedChars_append hfront hlast, List.nil_append, scanSource_quotes,
      scanSource_closing _ hr, hmod]

/-- Quotes that are left behind a literal are no code, or one more literal. -/
theorem eq_zero_of_scanSource_quotes {n : Nat} {value : List Char} (hn : n < 3)
    (h : (scanSource .code (List.replicate n '\'')).map (.literal value :: ·) = some [.literal s]) :
    n = 0 ∧ value = s := by
  match n, hn with
  | 0, _ => simpa using h
  | 1, _ => simp at h
  | 2, _ => simp at h

/-- What is written between three quotes is one literal with the text as its value if and
only if the quotes at the end of the text stand in threes and no line ends in a carriage
return. -/
theorem lexLines_tripleQuoted_iff (text : String) :
    lexLines ((tripleQuoted text).toList ++ ['\'', '\'', '\'']) = some [.literal text.toList] ↔
      trailing '\'' text.toList % 3 = 0 ∧ '\r' ∉ text.toList := by
  have hrest : ['\'', '\'', '\''].head? ≠ some '\n' := by decide
  rw [tripleQuoted, String.toList_ofList, lexLines, lineFeeds_tripleQuotedChars _ hrest]
  generalize text.toList = s
  have hclosing : lineFeeds ['\'', '\'', '\''] = ['\'', '\'', '\''] := rfl
  obtain ⟨value, hvalue, hscan⟩ := exists_scanSource_tripleQuotedChars (return_notMem_lineFeeds s)
  rw [hclosing, hscan]
  constructor
  · intro h
    obtain ⟨hzero, rfl⟩ := eq_zero_of_scanSource_quotes (Nat.mod_lt _ (by decide)) h
    rw [hzero, List.replicate_zero, List.append_nil] at hvalue
    exact ⟨by rwa [hvalue] at hzero, lineFeeds_eq_self_iff.1 hvalue⟩
  · rintro ⟨hzero, hreturn⟩
    rw [lineFeeds_eq_self_iff.2 hreturn, hzero, List.replicate_zero, List.append_nil] at hvalue
    rw [lineFeeds_eq_self_iff.2 hreturn, hzero, hvalue]
    rfl

/-- The quote at the end of a text closes the literal, and one of the closing quotes is
left. -/
theorem lexLines_quotedWord_ne :
    lexLines ((tripleQuoted "it'").toList ++ ['\'', '\'', '\'']) ≠
      some [.literal "it'".toList] := by
  decide

end TripleQuoted

end Maquette.Dart
