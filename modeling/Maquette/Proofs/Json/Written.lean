import Maquette.Proofs.Json.Grammar
import Maquette.Proofs.Json.RoundTrip
import Maquette.Service.Field

/-!
# Written values and the standard

A value that is written over several lines is a document of the standard exactly if all
its numbers are finite. Finite numbers are numerals, and everything else is written as
the grammar has it. The words for the other numbers have letters that no document has
outside of its strings.
-/

namespace Maquette.Json

open Grammar
open Service (isFinite itemsFinite fieldsFinite)

/-! ## Finite values -/

namespace Grammar

theorem Space.none (s : List Char) : Space s s :=
  ⟨[], rfl, rfl⟩

theorem Space.cons {c : Char} {s rest : List Char} (hc : isSpace c = true) (hs : Space s rest) :
    Space (c :: s) rest := by
  obtain ⟨blanks, rfl, hblanks⟩ := hs
  refine ⟨c :: blanks, rfl, ?_⟩
  rw [List.all_cons, hc, hblanks]
  rfl

theorem Space.columns (k : Nat) (s : List Char) : Space (List.replicate k ' ' ++ s) s := by
  refine ⟨List.replicate k ' ', rfl, ?_⟩
  rw [List.all_eq_true]
  intro c hc
  rw [List.eq_of_mem_replicate hc]
  rfl

theorem Space.line (k : Nat) (s : List Char) : Space ('\n' :: (List.replicate k ' ' ++ s)) s :=
  .cons rfl (.columns k s)

theorem space_closing (level : Nat) (bracket : Char) (rest : List Char) :
    Space (closing level bracket rest) (bracket :: rest) :=
  .line _ _

theorem Whole.of_isWhole {digits : List Char} (h : IsWhole digits) (rest : List Char) :
    Whole (digits ++ rest) rest := by
  rcases h.leading with rfl | ⟨d, more, rfl, hd⟩
  · exact .zero
  · refine .digits ⟨d :: more, rfl, List.cons_ne_nil _ _, h.digits_only⟩ ?_
    exact fun hzero => hd (Option.some.inj hzero)

theorem Fraction.of_digits {digits : List Char} (h : digits.all isDigit = true)
    (rest : List Char) : Fraction (Numeral.fractionText digits ++ rest) rest := by
  cases digits with
  | nil => exact .absent
  | cons digit more => exact .point ⟨digit :: more, rfl, List.cons_ne_nil _ _, h⟩

theorem Exponent.of_digits {exponent : Option (Bool × List Char)}
    (h : ∀ e ∈ exponent, e.2 ≠ [] ∧ e.2.all isDigit = true) (rest : List Char) :
    Exponent (Numeral.exponentText exponent ++ rest) rest := by
  cases exponent with
  | none => exact .absent
  | some e =>
    obtain ⟨negative, digits⟩ := e
    obtain ⟨hne, hdigits⟩ := h _ rfl
    have hrow : Digits (digits ++ rest) rest := ⟨digits, rfl, hne, hdigits⟩
    have hletter (sign : List Char) (hsign : sign ∈ [[], ['+'], ['-']]) :
        Exponent ('e' :: (sign ++ (digits ++ rest))) rest :=
      .letter (.inl rfl) hsign hrow
    cases negative with
    | false => exact hletter ['+'] (by decide)
    | true => exact hletter ['-'] (by decide)

/-- A sign and a numeral are a number. -/
theorem Number.of_numeral (negative : Bool) (n : Numeral) (rest : List Char) :
    Number (Binary64.signText negative ++ (n.text ++ rest)) rest := by
  have hsign : Binary64.signText negative ∈ [[], ['-']] := by cases negative <;> decide
  rw [Numeral.text, List.append_assoc, List.append_assoc]
  exact .parts hsign (.of_isWhole n.isWhole _) (.of_digits n.fraction_digits _)
    (.of_digits n.exponent_digits _)

theorem Number.of_integer (k : Int) (rest : List Char) :
    Number ((integerText k).toList ++ rest) rest := by
  obtain ⟨n, htext, -⟩ := integerText_eq k
  rw [htext, List.append_assoc]
  exact .of_numeral _ n rest

theorem Number.of_finite (s : Bool) (m : Magnitude) (rest : List Char) :
    Number ((writtenNumber (.finite s m)).toList ++ rest) rest := by
  obtain ⟨n, htext, -⟩ := Binary64.exists_text_eq s m
  have hwritten : writtenNumber (.finite s m) =
      String.ofList (Binary64.signText s ++ n.text) := htext
  rw [hwritten, String.toList_ofList, List.append_assoc]
  exact .of_numeral s n rest

theorem Characters.of_unitEscape {n : Nat} (h : n < 0x10000) {s rest : List Char}
    (hs : Characters s rest) : Characters (unitEscape n ++ s) rest := by
  have hdigit : ∀ digit < 16, (Text.hexValue? (Nat.digitChar digit)).isSome = true := by decide
  rw [unitEscape, Text.hex_four h]
  refine .unit ?_ hs
  simp only [List.mem_cons, List.not_mem_nil, or_false, forall_eq_or_imp, forall_eq]
  exact ⟨hdigit _ (by omega), hdigit _ (by omega), hdigit _ (by omega), hdigit _ (by omega)⟩

theorem Characters.of_charEscape (c : Char) {s rest : List Char} (hs : Characters s rest) :
    Characters (charEscape c ++ s) rest := by
  have hn : c.toNat < 0x110000 := (Text.Symbol.char c).codePoint_lt
  unfold charEscape
  dsimp only
  split
  · next hlow => exact .of_unitEscape hlow hs
  · next hhigh =>
    rw [List.append_assoc]
    exact .of_unitEscape (by omega) (.of_unitEscape (by omega) hs)

theorem Characters.of_writtenChar (c : Char) {s rest : List Char} (hs : Characters s rest) :
    Characters (writtenChar c ++ s) rest := by
  unfold writtenChar
  split
  · next letter hletter =>
    have hletters : ∀ pair ∈ shortEscapes, pair.2 ∈ escapeLetters := by decide
    exact .letter (hletters _ (mem_shortEscapes hletter)) hs
  · next hnone =>
    split
    · next hprint =>
      have hlow : ' '.toNat ≤ c.toNat := hprint.1
      refine .plain ?_ ?_ hlow hs
      · rintro rfl
        cases hnone
      · rintro rfl
        cases hnone
    · exact .of_charEscape c hs

theorem Characters.of_writtenSymbol (symbol : Text.Symbol) {s rest : List Char}
    (hs : Characters s rest) : Characters (writtenSymbol symbol ++ s) rest := by
  cases symbol with
  | char c => exact .of_writtenChar c hs
  | half unit h => exact .of_unitEscape (Nat.lt_trans (Text.lt_of_isHalf h).2 (by decide)) hs

theorem Quoted.of_writtenString (text : String) (rest : List Char) :
    Quoted ((writtenString text).toList ++ rest) rest := by
  have hbody (row : List Text.Symbol) :
      Characters (row.flatMap writtenSymbol ++ '"' :: rest) ('"' :: rest) := by
    induction row with
    | nil => exact .done
    | cons symbol row ih =>
      rw [List.flatMap_cons, List.append_assoc]
      exact .of_writtenSymbol symbol ih
  have htext : (writtenString text).toList ++ rest =
      '"' :: ((Text.symbols text.toList).flatMap writtenSymbol ++ '"' :: rest) := by
    simp [writtenString]
  rw [htext]
  exact .marks (hbody _)

/-- A field, from its name to its value. -/
theorem exists_member (name : String) {s rest : List Char} (hs : Value s rest) :
    ∃ afterName colon, Quoted ((writtenString name).toList ++ ':' :: ' ' :: s) afterName ∧
      Space afterName (':' :: colon) ∧ Space colon s ∧ Value s rest :=
  ⟨_, _, .of_writtenString name _, .none _, .cons rfl (.none s), hs⟩

mutual

/-- A value with finite numbers is written as the standard has it. -/
theorem value_prettyAt : ∀ (v : Json) (level : Nat) (rest : List Char), isFinite v = true →
    Value ((prettyAt level v).toList ++ rest) rest
  | null, _, _, _ => by
    rw [prettyAt]
    exact .null
  | bool true, _, _, _ => by
    rw [prettyAt]
    exact .true
  | bool false, _, _, _ => by
    rw [prettyAt]
    exact .false
  | integer k, _, rest, _ => by
    rw [prettyAt]
    exact .number (.of_integer k rest)
  | number (.finite s m), _, rest, _ => by
    rw [prettyAt]
    exact .number (.of_finite s m rest)
  | string text, _, rest, _ => by
    rw [prettyAt]
    exact .string (.of_writtenString text rest)
  | array [], _, _, _ => by
    rw [prettyAt]
    exact .emptyArray (.none _)
  | array (item :: items), level, rest, h => by
    rw [prettyAt_array]
    exact .array (items_prettyItems (item :: items) (level + 1) level rest (List.cons_ne_nil _ _) h)
  | object [], _, _, _ => by
    rw [prettyAt]
    exact .emptyObject (.none _)
  | object (field :: fields), level, rest, h => by
    rw [prettyAt_object]
    exact .object (members_prettyFields (field :: fields) (level + 1) level rest
      (List.cons_ne_nil _ _) h)

/-- The items of an array, from the line that the array opens on to the one that it is
closed on. -/
theorem items_prettyItems : ∀ (items : List Json) (level outer : Nat) (rest : List Char),
    items ≠ [] → itemsFinite items = true →
    Items ('\n' :: ((prettyItems level items).toList ++ closing outer ']' rest)) (']' :: rest)
  | [], _, _, _, hne, _ => absurd rfl hne
  | [item], level, outer, rest, _, h => by
    have hitem : isFinite item = true := (Bool.and_eq_true_iff.1 h).1
    rw [prettyItems_singleton, List.append_assoc]
    exact .last (.line _ _) (value_prettyAt item level _ hitem) (space_closing outer _ rest)
  | item :: next :: items, level, outer, rest, _, h => by
    obtain ⟨hitem, hnext⟩ := Bool.and_eq_true_iff.1 h
    rw [prettyItems_cons, List.append_assoc, List.append_assoc]
    exact .next (.line _ _) (value_prettyAt item level _ hitem) (.none _)
      (items_prettyItems (next :: items) level outer rest (List.cons_ne_nil _ _) hnext)

/-- The fields of an object, in the same way. -/
theorem members_prettyFields : ∀ (fields : List (String × Json)) (level outer : Nat)
    (rest : List Char), fields ≠ [] → fieldsFinite fields = true →
    Members ('\n' :: ((prettyFields level fields).toList ++ closing outer '\x7d' rest))
      ('\x7d' :: rest)
  | [], _, _, _, hne, _ => absurd rfl hne
  | [(name, value)], level, outer, rest, _, h => by
    have hfinite : isFinite value = true := (Bool.and_eq_true_iff.1 h).1
    rw [prettyFields_singleton, List.append_assoc, List.append_assoc]
    obtain ⟨_, _, hname, hcolon, hspace, hvalue⟩ :=
      exists_member name (value_prettyAt value level (closing outer '\x7d' rest) hfinite)
    exact .last (.line _ _) hname hcolon hspace hvalue (space_closing outer _ rest)
  | (name, value) :: next :: fields, level, outer, rest, _, h => by
    obtain ⟨hfinite, hnext⟩ := Bool.and_eq_true_iff.1 h
    simp only [prettyFields_cons, List.append_assoc, List.cons_append]
    obtain ⟨_, _, hname, hcolon, hspace, hvalue⟩ :=
      exists_member name (value_prettyAt value level (',' :: '\n' ::
        ((prettyFields level (next :: fields)).toList ++ closing outer '\x7d' rest)) hfinite)
    have hmore :=
      members_prettyFields (next :: fields) level outer rest (List.cons_ne_nil _ _) hnext
    exact .next (.line _ _) hname hcolon hspace hvalue (.none _) hmore

end

/-! ## Numbers without digits -/

theorem marked_writtenNumber (x : Binary64) (rest : List Char) :
    Marked ((writtenNumber x).toList ++ rest) rest x.isFinite := by
  cases x with
  | finite s m => exact (Number.of_finite s m rest).marked
  | infinite s => cases s <;> exact Marked.row (by decide) rest
  | nan => exact Marked.row (by decide) rest

theorem marked_line (k : Nat) {s rest : List Char} {p : Bool} (hs : Marked s rest p) :
    Marked ('\n' :: (List.replicate k ' ' ++ s)) rest p :=
  (Space.line k s).marked.after hs

theorem marked_closing (level : Nat) {bracket : Char} (hquote : bracket ≠ '"')
    (hmark : isMark bracket = true) (rest : List Char) :
    Marked (closing level bracket rest) rest true :=
  (space_closing level bracket rest).marked.after (.mark hquote hmark (.refl rest))

theorem marked_member (name : String) {s rest : List Char} {p : Bool} (hs : Marked s rest p) :
    Marked ((writtenString name).toList ++ ':' :: ' ' :: s) rest p :=
  (Quoted.of_writtenString name _).marked.after
    (.mark (by decide) (by decide) (.mark (by decide) (by decide) hs))

theorem marked_comma {s rest : List Char} {p : Bool} (hs : Marked ('\n' :: s) rest p) :
    Marked (',' :: '\n' :: s) rest p :=
  .mark (by decide) (by decide) hs

mutual

/-- A written value has nothing but marks outside of its strings exactly if its numbers
are finite. -/
theorem marked_prettyAt : ∀ (v : Json) (level : Nat) (rest : List Char),
    Marked ((prettyAt level v).toList ++ rest) rest (isFinite v)
  | null, _, rest => (value_prettyAt null _ rest rfl).marked
  | bool value, _, rest => (value_prettyAt (bool value) _ rest rfl).marked
  | integer k, _, rest => (value_prettyAt (integer k) _ rest rfl).marked
  | number x, _, rest => by
    rw [prettyAt]
    exact marked_writtenNumber x rest
  | string text, _, rest => (value_prettyAt (string text) _ rest rfl).marked
  | array [], _, rest => (value_prettyAt (array []) _ rest rfl).marked
  | array (item :: items), level, rest => by
    rw [prettyAt_array]
    have hitems := marked_prettyItems (item :: items) (level + 1) (closing level ']' rest)
    have hclosed := hitems.trans (marked_closing level (by decide) (by decide) rest)
    rw [Bool.and_true] at hclosed
    exact .mark (by decide) (by decide) hclosed
  | object [], _, rest => (value_prettyAt (object []) _ rest rfl).marked
  | object (field :: fields), level, rest => by
    rw [prettyAt_object]
    have hfields := marked_prettyFields (field :: fields) (level + 1) (closing level '\x7d' rest)
    have hclosed := hfields.trans (marked_closing level (by decide) (by decide) rest)
    rw [Bool.and_true] at hclosed
    exact .mark (by decide) (by decide) hclosed

theorem marked_prettyItems : ∀ (items : List Json) (level : Nat) (rest : List Char),
    Marked ('\n' :: ((prettyItems level items).toList ++ rest)) rest (itemsFinite items)
  | [], _, rest => .mark (by decide) (by decide) (.refl rest)
  | [item], level, rest => by
    rw [prettyItems_singleton, List.append_assoc, itemsFinite, itemsFinite, Bool.and_true]
    exact marked_line _ (marked_prettyAt item level rest)
  | item :: next :: items, level, rest => by
    rw [prettyItems_cons, List.append_assoc, List.append_assoc, itemsFinite]
    exact marked_line _ ((marked_prettyAt item level _).trans
      (marked_comma (marked_prettyItems (next :: items) level rest)))

theorem marked_prettyFields : ∀ (fields : List (String × Json)) (level : Nat) (rest : List Char),
    Marked ('\n' :: ((prettyFields level fields).toList ++ rest)) rest (fieldsFinite fields)
  | [], _, rest => .mark (by decide) (by decide) (.refl rest)
  | [(name, value)], level, rest => by
    simp only [prettyFields_singleton, List.append_assoc, List.cons_append, fieldsFinite,
      Bool.and_true]
    exact marked_line _ (marked_member name (marked_prettyAt value level rest))
  | (name, value) :: next :: fields, level, rest => by
    simp only [prettyFields_cons, List.append_assoc, List.cons_append]
    rw [fieldsFinite]
    exact marked_line _ (marked_member name ((marked_prettyAt value level _).trans
      (marked_comma (marked_prettyFields (next :: fields) level rest))))

end

/-- A value is written as a document of the standard exactly if its numbers are finite. -/
theorem isDocument_pretty_iff (v : Json) : IsDocument v.pretty ↔ isFinite v = true := by
  have hvalue := value_prettyAt v 0 []
  have hmarked := marked_prettyAt v 0 []
  rw [List.append_nil] at hvalue hmarked
  constructor
  · intro h
    obtain ⟨between, hbetween, hall⟩ := h.marked
    obtain ⟨between', hbetween', hall'⟩ := hmarked
    have heq : between ++ bare [] = between' ++ bare [] := hbetween.symm.trans hbetween'
    rw [← List.append_cancel_right heq, hall] at hall'
    exact hall'.symm
  · intro h
    exact ⟨_, _, .none _, hvalue h, .none _⟩

end Grammar

end Maquette.Json
