import Maquette.Proofs.Json.Display
import Maquette.Text.Encoding

/-!
# Values with an encoding

A text has no encoding if it has a half of a pair. Writing a value on one line leaves
the halves of its texts as they are and adds none, so the written value has an encoding
exactly if every text in the value has one, the names of its fields among them.
-/

namespace Maquette

namespace Text

/-- None of the symbols of a text is a half. -/
def isEncodable (s : List Char) : Bool :=
  (symbols s).all fun symbol => symbol.half?.isNone

@[simp] theorem isEncodable_nil : isEncodable [] = true := rfl

theorem isEncodable_signed {c : Char} (h : isReserved c = true) (s : List Char) :
    isEncodable (literalSign :: c :: s) = isEncodable s := by
  rw [isEncodable, symbols_signed h]
  rfl

theorem isEncodable_cons_of_head? {c : Char} {s : List Char}
    (h : c = literalSign → ∀ d ∈ s.head?, isReserved d = false) :
    isEncodable (c :: s) = ((Symbol.ofKept c).half?.isNone && isEncodable s) := by
  rw [isEncodable, symbols_cons_of_head? h]
  rfl

theorem isEncodable_append {s : List Char} (h : ∀ c ∈ s, isReserved c = false) (t : List Char) :
    isEncodable (s ++ t) = isEncodable t := by
  have hchars : (s.map Symbol.char).all (fun symbol => symbol.half?.isNone) = true := by
    rw [List.all_map, List.all_eq_true]
    intro c _
    rfl
  rw [isEncodable, symbols_append_of_all_not_isReserved h, List.all_append, hchars, Bool.true_and,
    isEncodable]

@[simp] theorem isEncodable_cons {c : Char} (h : isReserved c = false) (s : List Char) :
    isEncodable (c :: s) = isEncodable s :=
  isEncodable_append (s := [c]) (by simpa using h) s

/-- A character that is not reserved parts a text. -/
@[simp] theorem isEncodable_append_cons {c : Char} (h : isReserved c = false) (s t : List Char) :
    isEncodable (s ++ c :: t) = (isEncodable s && isEncodable t) := by
  rw [isEncodable, symbols_append_cons h, List.all_append]
  rfl

/-- A text has an encoding exactly if none of its symbols is a half. -/
theorem encodingFault?_eq_none {s : List Char} :
    encodingFault? s = none ↔ isEncodable s = true := by
  rw [encodingFault?, lostHalves?, Option.map_eq_none_iff, isEncodable]
  induction symbols s with
  | nil => simp
  | cons symbol row ih =>
    cases hsymbol : symbol.half? with
    | none => simpa [List.takeWhile_cons, hsymbol] using ih
    | some half => simp [hsymbol]

/-- A half behind a character that is not reserved is one in the whole text. -/
theorem isEncodable_eq_false_of_infix {c d : Char} {half : Nat} (hc : isReserved c = false)
    (hd : half? d = some half) {s : List Char} (h : [c, d] <:+: s) : isEncodable s = false := by
  obtain ⟨front, rest, rfl⟩ := h
  have hsplit : front ++ [c, d] ++ rest = front ++ c :: d :: rest := by simp
  have hkept : (Symbol.ofKept d).half? = some half := by
    rw [Symbol.ofKept, hd]
    exact congrArg Symbol.half? (Symbol.ofUnit_of_isHalf (toNat_of_half? hd).1)
  rw [hsplit, isEncodable_append_cons hc,
    isEncodable_cons_of_head? fun hsign => absurd hsign (ne_literalSign_of_half? hd), hkept]
  exact Bool.and_false _

theorem isEncodable_of_isBelowHalves {s : List Char} (h : isBelowHalves s = true) :
    isEncodable s = true := by
  have hnone := isEncodable_append (not_isReserved_of_isBelowHalves h) []
  rwa [List.append_nil] at hnone

theorem isEncodable_of_plain {s : List Char} (h : s.all isPlainChar = true) :
    isEncodable s = true :=
  isEncodable_of_isBelowHalves (isBelowHalves_of_plain h)

end Text

namespace Json

open Text (isReserved isReserved_eq_false_of_lt)

mutual

/-- Every text in a value has an encoding. -/
def isEncodable : Json → Bool
  | string text => Text.isEncodable text.toList
  | array items => areEncodableItems items
  | object fields => areEncodableFields fields
  | _ => true

def areEncodableItems : List Json → Bool
  | [] => true
  | item :: rest => isEncodable item && areEncodableItems rest

def areEncodableFields : List (String × Json) → Bool
  | [] => true
  | (name, value) :: rest =>
    Text.isEncodable name.toList && (isEncodable value && areEncodableFields rest)

end

theorem isEncodable_eq_false_of_mem {fields : List (String × Json)} {name : String} {value : Json}
    (h : (name, value) ∈ fields) (hvalue : value.isEncodable = false) :
    (object fields).isEncodable = false := by
  rw [isEncodable]
  induction fields with
  | nil => cases h
  | cons field fields ih =>
    obtain ⟨other, first⟩ := field
    rw [areEncodableFields]
    rcases List.mem_cons.1 h with heq | h
    · cases heq
      rw [hvalue, Bool.false_and, Bool.and_false]
    · rw [ih h, Bool.and_false, Bool.and_false]

/-- A reserved character needs no escape. -/
theorem openChar_of_isReserved {c : Char} (h : isReserved c = true) : openChar c = [c] := by
  have hhigh : Text.halfOffset ≤ c.toNat := by
    rcases Nat.lt_or_ge c.toNat Text.halfOffset with hlt | hge
    · rw [isReserved_eq_false_of_lt hlt] at h
      cases h
    · exact hge
  have hshort : shortEscape? c = none := by
    cases hletter : shortEscape? c with
    | none => rfl
    | some letter =>
      have hall : ∀ pair ∈ shortEscapes, pair.1.toNat < Text.halfOffset := by decide
      exact absurd (hall _ (mem_shortEscapes hletter)) (Nat.not_lt.2 hhigh)
  have hopen : ¬(c < ' ' ∨ c = '\u2028' ∨ c = '\u2029') := by
    rintro (hlt | rfl | rfl)
    · exact absurd (Nat.lt_trans (show c.toNat < 32 from hlt) (by decide)) (Nat.not_lt.2 hhigh)
    · exact absurd hhigh (by decide)
    · exact absurd hhigh (by decide)
  rw [openChar, hshort]
  exact if_neg hopen

/-- Neither what is not reserved nor what it is escaped with is reserved. -/
theorem not_isReserved_of_mem_openChar {c d : Char} (h : isReserved c = false)
    (hd : d ∈ openChar c) : isReserved d = false := by
  have hplain {s : List Char} (hs : s.all Text.isPlainChar = true) (hd : d ∈ s) :
      isReserved d = false :=
    Text.not_isReserved_of_isBelowHalves (Text.isBelowHalves_of_plain hs) d hd
  unfold openChar at hd
  split at hd
  · next letter hletter =>
    refine hplain ?_ hd
    rw [List.all_cons, List.all_cons, isPlainChar_of_shortEscape hletter]
    rfl
  · split at hd
    · exact hplain (all_isPlainChar_charEscape c) hd
    · rwa [List.mem_singleton.1 hd]

theorem openChar_ne_nil (c : Char) : openChar c ≠ [] := by
  unfold openChar
  split
  · exact List.cons_ne_nil _ _
  · split
    · unfold charEscape unitEscape
      dsimp only
      split <;> exact List.cons_ne_nil _ _
    · exact List.cons_ne_nil _ _

theorem not_isReserved_of_mem_head?_openChar {c d : Char} (h : isReserved c = false)
    {rest : List Char} (hd : d ∈ (openChar c ++ rest).head?) : isReserved d = false := by
  cases hopen : openChar c with
  | nil => exact absurd hopen (openChar_ne_nil c)
  | cons first more =>
    rw [hopen] at hd
    refine not_isReserved_of_mem_openChar h ?_
    rw [hopen, Option.some.inj hd]
    exact List.mem_cons_self

theorem isEncodable_flatMap_openChar (s : List Char) :
    Text.isEncodable (s.flatMap openChar) = Text.isEncodable s := by
  -- as the symbols of a text are found: a sign and what is behind it are not escaped
  induction s using Text.symbols.induct with
  | case1 => rfl
  | case2 c =>
    rw [List.flatMap_singleton]
    cases hc : isReserved c with
    | true => rw [openChar_of_isReserved hc]
    | false =>
      have hopen := Text.isEncodable_append (fun d hd => not_isReserved_of_mem_openChar hc hd) []
      rw [List.append_nil] at hopen
      rw [hopen, Text.isEncodable_cons hc]
  | case3 c d rest hcd ih =>
    obtain ⟨rfl, hd⟩ := hcd
    rw [List.flatMap_cons, List.flatMap_cons, openChar_of_isReserved (by decide),
      openChar_of_isReserved hd]
    exact (Text.isEncodable_signed hd _).trans (ih.trans (Text.isEncodable_signed hd _).symm)
  | case4 c d rest hcd ih =>
    rw [List.flatMap_cons]
    cases hc : isReserved c with
    | true =>
      rw [openChar_of_isReserved hc, List.singleton_append, Text.isEncodable_cons_of_head?,
        Text.isEncodable_cons_of_head?, ih]
      · rintro hsign e he
        rw [← Option.some.inj he]
        simpa [hsign] using hcd
      · rintro hsign e he
        have hd : isReserved d = false := by simpa [hsign] using hcd
        rw [List.flatMap_cons] at he
        exact not_isReserved_of_mem_head?_openChar hd he
    | false =>
      rw [Text.isEncodable_append fun e he => not_isReserved_of_mem_openChar hc he, ih,
        Text.isEncodable_cons hc]

theorem isEncodable_openString (text : String) :
    Text.isEncodable (openString text).toList = Text.isEncodable text.toList := by
  simp (disch := decide) [openString, isEncodable_flatMap_openChar]

theorem isEncodable_writtenNumber (x : Binary64) :
    Text.isEncodable (writtenNumber x).toList = true :=
  Text.isEncodable_of_plain (all_isPlainChar_writtenNumber x)

mutual

/-- A value on one line has an encoding exactly if its texts have. -/
theorem isEncodable_compactText : ∀ v : Json,
    Text.isEncodable (v.compactWith openString).toList = v.isEncodable
  | null => by rw [compactWith, isEncodable.eq_def]; decide
  | bool true => by rw [compactWith]; decide
  | bool false => by rw [compactWith]; decide
  | integer k => by
    rw [compactWith]
    exact Text.isEncodable_of_plain (Text.all_isPlainChar_of_all (all_isWordChar_integerText k))
  | number x => by
    rw [compactWith]
    exact isEncodable_writtenNumber x
  | string text => by
    rw [compactWith, isEncodable_openString, isEncodable]
  | array items => by
    have hitems := isEncodable_compactItems items
    simp (disch := decide) [compactWith, isEncodable, hitems]
  | object fields => by
    have hfields := isEncodable_compactFields fields
    simp (disch := decide) [compactWith, isEncodable, hfields]

theorem isEncodable_compactItems : ∀ items : List Json,
    Text.isEncodable (compactItems openString items).toList = areEncodableItems items
  | [] => rfl
  | [item] => by
    have hitem := isEncodable_compactText item
    simp [compactItems, areEncodableItems, hitem]
  | item :: next :: rest => by
    have hitem := isEncodable_compactText item
    have hrest := isEncodable_compactItems (next :: rest)
    simp (disch := decide) [compactItems, areEncodableItems, hitem, hrest]

theorem isEncodable_compactFields : ∀ fields : List (String × Json),
    Text.isEncodable (compactFields openString fields).toList = areEncodableFields fields
  | [] => rfl
  | [(name, value)] => by
    have hvalue := isEncodable_compactText value
    simp (disch := decide) [compactFields, areEncodableFields, isEncodable_openString, hvalue]
  | (name, value) :: next :: rest => by
    have hvalue := isEncodable_compactText value
    have hrest := isEncodable_compactFields (next :: rest)
    simp (disch := decide) [compactFields, areEncodableFields, isEncodable_openString, hvalue, hrest]

end

end Json

end Maquette
