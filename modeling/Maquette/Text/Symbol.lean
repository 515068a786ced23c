import Maquette.Text.Half

/-!
# Symbols of texts

A text is a row of symbols: characters, and halves of pairs that stand alone. A text is
kept as a row of characters, with its halves as the characters that stand for them and the
sign in front of the characters that would be taken for one. What is put together from
kept texts is the kept form of what they make up, so that only what counts the symbols of
a text or tells halves from characters has to look at them.

Characters from outside are brought into this form by `ofChars`.
-/

namespace Maquette.Text

/-- What a text has in one place. -/
inductive Symbol
  | char (c : Char)
  | half (unit : Nat) (isHalf : isHalf unit = true)
deriving DecidableEq

namespace Symbol

/-- The symbol of a code point. -/
def ofUnit (unit : Nat) : Symbol :=
  if h : isHalf unit = true then .half unit h else .char (Char.ofNat unit)

def codePoint : Symbol → Nat
  | char c => c.toNat
  | half unit _ => unit

def half? : Symbol → Option Nat
  | char _ => none
  | half unit _ => some unit

/-- The characters that a symbol is kept as. -/
def code : Symbol → List Char
  | char c => if isReserved c then [literalSign, c] else [c]
  | half unit _ => [halfChar unit]

/-- The parts of a reading that come to a symbol: the characters that it is kept as. -/
def parts (s : Symbol) : List (Option Char) :=
  s.code.map some

/-- The symbol that a character without a sign in front of it is kept for. -/
def ofKept (c : Char) : Symbol :=
  match Text.half? c with
  | some unit => ofUnit unit
  | none => char c

theorem ofUnit_of_isHalf {unit : Nat} (h : isHalf unit = true) : ofUnit unit = half unit h :=
  dif_pos h

theorem codePoint_lt (s : Symbol) : s.codePoint < 0x110000 := by
  cases s with
  | char c =>
    have hvalid : c.toNat.isValidChar := c.valid
    simp only [codePoint]
    rcases hvalid with hlow | hhigh <;> omega
  | half unit h =>
    have hrange := lt_of_isHalf h
    simp only [codePoint]
    omega

theorem code_of_isReserved_eq_false {c : Char} (h : isReserved c = false) :
    (char c).code = [c] := by
  rw [code, h]
  rfl

theorem ofKept_of_isReserved_eq_false {c : Char} (h : isReserved c = false) :
    ofKept c = char c := by
  rw [ofKept, half?_eq_none_of_isReserved_eq_false h]

end Symbol

/-- The row of characters that a text is kept as. -/
def ofSymbols (symbols : List Symbol) : List Char :=
  symbols.flatMap Symbol.code

/-- The kept form of a text that has nothing but characters. -/
def ofChars (chars : List Char) : List Char :=
  ofSymbols (chars.map .char)

/-- A text from outside, in the form that texts are kept in. -/
def kept (text : String) : String :=
  String.ofList (ofChars text.toList)

/-- The symbols of a text that is kept as these characters. A sign in front of anything
else than a reserved character would stand for itself, but no text is kept like that. -/
def symbols : List Char → List Symbol
  | [] => []
  | [c] => [.ofKept c]
  | c :: d :: rest =>
    if c = literalSign ∧ isReserved d = true then .char d :: symbols rest
    else .ofKept c :: symbols (d :: rest)

@[simp] theorem symbols_nil : symbols [] = [] := rfl

theorem symbols_signed {c : Char} (h : isReserved c = true) (rest : List Char) :
    symbols (literalSign :: c :: rest) = .char c :: symbols rest :=
  if_pos ⟨rfl, h⟩

theorem symbols_unsigned {c d : Char} (h : ¬(c = literalSign ∧ isReserved d = true))
    (rest : List Char) : symbols (c :: d :: rest) = .ofKept c :: symbols (d :: rest) :=
  if_neg h

theorem symbols_cons_of_head? {c : Char} {rest : List Char}
    (h : c = literalSign → ∀ d ∈ rest.head?, isReserved d = false) :
    symbols (c :: rest) = .ofKept c :: symbols rest := by
  cases rest with
  | nil => rfl
  | cons d rest =>
    refine symbols_unsigned ?_ rest
    rintro ⟨hc, hd⟩
    rw [h hc d rfl] at hd
    cases hd

theorem symbols_cons {c : Char} (h : c ≠ literalSign) (rest : List Char) :
    symbols (c :: rest) = .ofKept c :: symbols rest :=
  symbols_cons_of_head? fun hc => absurd hc h

theorem symbols_cons_of_isReserved_eq_false {c : Char} (h : isReserved c = false)
    (rest : List Char) : symbols (c :: rest) = .char c :: symbols rest := by
  rw [symbols_cons (ne_literalSign_of_isReserved_eq_false h),
    Symbol.ofKept_of_isReserved_eq_false h]

/-- A symbol is found again in front of whatever follows it. -/
theorem symbols_code_append (s : Symbol) (rest : List Char) :
    symbols (s.code ++ rest) = s :: symbols rest := by
  cases s with
  | char c =>
    cases hc : isReserved c with
    | false =>
      rw [Symbol.code_of_isReserved_eq_false hc]
      exact symbols_cons_of_isReserved_eq_false hc rest
    | true =>
      rw [Symbol.code, hc, if_pos rfl]
      exact symbols_signed hc rest
  | half unit h =>
    have hchar := half?_halfChar h
    refine (symbols_cons (ne_literalSign_of_half? hchar) rest).trans ?_
    rw [Symbol.ofKept, hchar]
    exact congrArg (· :: symbols rest) (Symbol.ofUnit_of_isHalf h)

/-- What is kept is found again: two texts with different symbols are kept as different
rows of characters. -/
theorem symbols_ofSymbols (row : List Symbol) : symbols (ofSymbols row) = row := by
  induction row with
  | nil => rfl
  | cons s row ih => rw [ofSymbols, List.flatMap_cons, symbols_code_append, ← ofSymbols, ih]

theorem ofSymbols_injective : Function.Injective ofSymbols :=
  Function.LeftInverse.injective symbols_ofSymbols

theorem symbols_ofChars (chars : List Char) : symbols (ofChars chars) = chars.map .char :=
  symbols_ofSymbols _

/-- Different texts are different in the form that they are kept in. -/
theorem kept_injective : Function.Injective kept := by
  intro s t h
  have hsymbols := congrArg symbols (String.ofList_injective h)
  rw [symbols_ofChars, symbols_ofChars] at hsymbols
  exact String.toList_injective ((List.map_inj_right fun _ _ => Symbol.char.inj).1 hsymbols)

/-- A character that is not reserved parts a text: it neither takes part in what is in
front of it nor in what follows. -/
theorem symbols_append_cons {c : Char} (h : isReserved c = false) (front rest : List Char) :
    symbols (front ++ c :: rest) = symbols front ++ .char c :: symbols rest := by
  have htail := symbols_cons_of_isReserved_eq_false h rest
  induction front using symbols.induct with
  | case1 => exact htail
  | case2 d =>
    have hunsigned : ¬(d = literalSign ∧ isReserved c = true) := by simp [h]
    exact (symbols_unsigned hunsigned rest).trans (congrArg (.ofKept d :: ·) htail)
  | case3 d e front hd ih =>
    obtain ⟨rfl, he⟩ := hd
    rw [List.cons_append, List.cons_append, symbols_signed he, symbols_signed he, ih,
      List.cons_append]
  | case4 d e front hd ih =>
    rw [List.cons_append, List.cons_append, symbols_unsigned hd, symbols_unsigned hd,
      ← List.cons_append, ih, List.cons_append]

/-- Characters that are not reserved are symbols of their own, in front of any text. -/
theorem symbols_append_of_all_not_isReserved {s : List Char}
    (h : ∀ c ∈ s, isReserved c = false) (rest : List Char) :
    symbols (s ++ rest) = s.map .char ++ symbols rest := by
  induction s with
  | nil => rfl
  | cons c s ih =>
    rw [List.cons_append, symbols_cons_of_isReserved_eq_false (h c List.mem_cons_self),
      ih fun d hd => h d (List.mem_cons_of_mem _ hd)]
    rfl

/-- A text without reserved characters is kept as it is. -/
theorem ofChars_of_all_not_isReserved {s : List Char} (h : ∀ c ∈ s, isReserved c = false) :
    ofChars s = s := by
  induction s with
  | nil => rfl
  | cons c s ih =>
    have hcode := Symbol.code_of_isReserved_eq_false (h c List.mem_cons_self)
    have hrest := ih fun d hd => h d (List.mem_cons_of_mem _ hd)
    calc ofChars (c :: s) = (Symbol.char c).code ++ ofChars s := rfl
      _ = c :: s := by rw [hcode, hrest, List.singleton_append]

/-- The characters U+10D800 and U+10DC00 are not the halves that these characters stand for
without a sign. -/
example : ofChars [halfChar 0xd800, halfChar 0xdc00] ≠ [halfChar 0xd800, halfChar 0xdc00] := by
  decide

end Maquette.Text
