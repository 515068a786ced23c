import Maquette.Json.Reader

/-!
# The standard grammar

What RFC 8259 takes for a JSON document, apart from any reader. Every part of a document
is a relation between the text at its beginning and the text behind it, so the parts
follow each other without a word about lengths.

Numbers are written in digits. There is no word for the numbers without digits, and
`IsDocument.marked` says how that shows: outside of its strings a document has none but
the characters of `isMark`. That is the way to see that a text is no document.
-/

namespace Maquette.Json.Grammar

/-- White space between the parts of a document. -/
def Space (s rest : List Char) : Prop :=
  ∃ blanks, s = blanks ++ rest ∧ blanks.all isSpace = true

/-- A row of digits, at least one. -/
def Digits (s rest : List Char) : Prop :=
  ∃ digits, s = digits ++ rest ∧ digits ≠ [] ∧ digits.all isDigit = true

/-- The part of a number in front of the point. -/
inductive Whole : List Char → List Char → Prop
  | zero {rest : List Char} : Whole ('0' :: rest) rest
  | digits {s rest : List Char} (hs : Digits s rest) (hzero : s.head? ≠ some '0') : Whole s rest

/-- The point of a number and the digits after it. -/
inductive Fraction : List Char → List Char → Prop
  | absent {rest : List Char} : Fraction rest rest
  | point {s rest : List Char} (hs : Digits s rest) : Fraction ('.' :: s) rest

/-- The exponent of a number. -/
inductive Exponent : List Char → List Char → Prop
  | absent {rest : List Char} : Exponent rest rest
  | letter {e : Char} {sign s rest : List Char} (he : e = 'e' ∨ e = 'E')
      (hsign : sign ∈ [[], ['+'], ['-']]) (hs : Digits s rest) : Exponent (e :: (sign ++ s)) rest

inductive Number : List Char → List Char → Prop
  | parts {sign s afterWhole afterFraction rest : List Char} (hsign : sign ∈ [[], ['-']])
      (hwhole : Whole s afterWhole) (hfraction : Fraction afterWhole afterFraction)
      (hexponent : Exponent afterFraction rest) : Number (sign ++ s) rest

/-- The letters that may follow a backslash on their own. -/
def escapeLetters : List Char :=
  ['"', '\\', '/', 'b', 'f', 'n', 'r', 't']

/-- Characters between quotation marks. -/
inductive Characters : List Char → List Char → Prop
  | done {rest : List Char} : Characters rest rest
  | plain {c : Char} {s rest : List Char} (hquote : c ≠ '"') (hslash : c ≠ '\\')
      (hcontrol : 0x20 ≤ c.toNat) (hs : Characters s rest) : Characters (c :: s) rest
  | letter {c : Char} {s rest : List Char} (hc : c ∈ escapeLetters) (hs : Characters s rest) :
      Characters ('\\' :: c :: s) rest
  | unit {a b c d : Char} {s rest : List Char}
      (hdigits : ∀ digit ∈ [a, b, c, d], (Text.hexValue? digit).isSome = true)
      (hs : Characters s rest) : Characters ('\\' :: 'u' :: a :: b :: c :: d :: s) rest

inductive Quoted : List Char → List Char → Prop
  | marks {s rest : List Char} (hs : Characters s ('"' :: rest)) : Quoted ('"' :: s) rest

mutual

inductive Value : List Char → List Char → Prop
  | null {rest : List Char} : Value ("null".toList ++ rest) rest
  | true {rest : List Char} : Value ("true".toList ++ rest) rest
  | false {rest : List Char} : Value ("false".toList ++ rest) rest
  | number {s rest : List Char} (hs : Number s rest) : Value s rest
  | string {s rest : List Char} (hs : Quoted s rest) : Value s rest
  | emptyArray {s rest : List Char} (hs : Space s (']' :: rest)) : Value ('[' :: s) rest
  | array {s rest : List Char} (hs : Items s (']' :: rest)) : Value ('[' :: s) rest
  | emptyObject {s rest : List Char} (hs : Space s ('\x7d' :: rest)) : Value ('\x7b' :: s) rest
  | object {s rest : List Char} (hs : Members s ('\x7d' :: rest)) : Value ('\x7b' :: s) rest

/-- The items of an array, with the white space around each. -/
inductive Items : List Char → List Char → Prop
  | last {s value after rest : List Char} (hbefore : Space s value) (hvalue : Value value after)
      (hafter : Space after rest) : Items s rest
  | next {s value after more rest : List Char} (hbefore : Space s value)
      (hvalue : Value value after) (hafter : Space after (',' :: more)) (hmore : Items more rest) :
      Items s rest

/-- The fields of an object, with the white space around their names and values. -/
inductive Members : List Char → List Char → Prop
  | last {s name afterName colon value after rest : List Char} (hbefore : Space s name)
      (hname : Quoted name afterName) (hcolon : Space afterName (':' :: colon))
      (hspace : Space colon value) (hvalue : Value value after) (hafter : Space after rest) :
      Members s rest
  | next {s name afterName colon value after more rest : List Char} (hbefore : Space s name)
      (hname : Quoted name afterName) (hcolon : Space afterName (':' :: colon))
      (hspace : Space colon value) (hvalue : Value value after)
      (hafter : Space after (',' :: more)) (hmore : Members more rest) : Members s rest

end

/-- A text that is a JSON document of the standard. -/
def IsDocument (text : String) : Prop :=
  ∃ value after, Space text.toList value ∧ Value value after ∧ Space after []

/-! ## Outside of strings -/

/-- What a text has outside of its strings. `inside` tells whether it begins in one. -/
def bareFrom : (inside : Bool) → List Char → List Char
  | _, [] => []
  | false, c :: rest => if c = '"' then bareFrom true rest else c :: bareFrom false rest
  | true, '\\' :: _ :: rest => bareFrom true rest
  | true, c :: rest => if c = '"' then bareFrom false rest else bareFrom true rest

def bare (s : List Char) : List Char :=
  bareFrom false s

/-- The characters that a document can have outside of its strings. -/
def isMark (c : Char) : Bool :=
  isSpace c || isDigit c || "[]\x7b\x7d:,-+.eEnulltruefalse".toList.contains c

/-- Between two places of a text, the characters outside of strings are all marks, or
they are not. -/
def Marked (s rest : List Char) (marked : Bool) : Prop :=
  ∃ between, bare s = between ++ bare rest ∧ between.all isMark = marked

namespace Marked

variable {s t rest : List Char} {p q : Bool}

theorem refl (s : List Char) : Marked s s true :=
  ⟨[], rfl, rfl⟩

theorem trans (hs : Marked s t p) (ht : Marked t rest q) : Marked s rest (p && q) := by
  obtain ⟨first, hfirst, rfl⟩ := hs
  obtain ⟨second, hsecond, rfl⟩ := ht
  refine ⟨first ++ second, ?_, List.all_append⟩
  rw [hfirst, hsecond, List.append_assoc]

/-- Nothing but marks stands in front. -/
theorem after (hs : Marked s t true) (ht : Marked t rest p) : Marked s rest p :=
  hs.trans ht

theorem char {c : Char} (hc : c ≠ '"') (s : List Char) : Marked (c :: s) s (isMark c) := by
  refine ⟨[c], ?_, by rw [List.all_cons, List.all_nil, Bool.and_true]⟩
  rw [bare, bareFrom, if_neg hc]
  rfl

theorem mark {c : Char} (hc : c ≠ '"') (hmark : isMark c = true) (hs : Marked s rest p) :
    Marked (c :: s) rest p := by
  have hfirst := char hc s
  rw [hmark] at hfirst
  exact hfirst.after hs

/-- A row of characters without a quotation mark. -/
theorem row {front : List Char} (h : '"' ∉ front) (s : List Char) :
    Marked (front ++ s) s (front.all isMark) := by
  induction front with
  | nil => exact refl s
  | cons c front ih =>
    rw [List.mem_cons, not_or] at h
    rw [List.cons_append, List.all_cons]
    exact (char (Ne.symm h.1) _).trans (ih h.2)

theorem append {front : List Char} (hquote : '"' ∉ front) (hmarks : front.all isMark = true)
    (hs : Marked s rest p) : Marked (front ++ s) rest p := by
  have hfront := row hquote s
  rw [hmarks] at hfront
  exact hfront.after hs

theorem append_of_all {kind : Char → Bool} {front : List Char}
    (hkind : ∀ c, kind c = true → c ≠ '"' ∧ isMark c = true) (h : front.all kind = true)
    (hs : Marked s rest p) : Marked (front ++ s) rest p := by
  have hfront : ∀ c ∈ front, c ≠ '"' ∧ isMark c = true := fun c hc =>
    hkind c (List.all_eq_true.1 h c hc)
  exact append (fun hquote => (hfront _ hquote).1 rfl)
    (List.all_eq_true.2 fun c hc => (hfront c hc).2) hs

end Marked

theorem isMark_of_isSpace {c : Char} (h : isSpace c = true) : c ≠ '"' ∧ isMark c = true := by
  refine ⟨?_, by rw [isMark, h, Bool.true_or, Bool.true_or]⟩
  rintro rfl
  cases h

theorem isMark_of_isDigit {c : Char} (h : isDigit c = true) : c ≠ '"' ∧ isMark c = true := by
  refine ⟨?_, by rw [isMark, h, Bool.or_true, Bool.true_or]⟩
  rintro rfl
  cases h

section Parts

variable {s rest : List Char}

theorem Space.marked (h : Space s rest) : Marked s rest true := by
  obtain ⟨blanks, rfl, hblanks⟩ := h
  exact Marked.append_of_all (fun _ => isMark_of_isSpace) hblanks (.refl rest)

theorem Digits.marked (h : Digits s rest) : Marked s rest true := by
  obtain ⟨digits, rfl, -, hdigits⟩ := h
  exact Marked.append_of_all (fun _ => isMark_of_isDigit) hdigits (.refl rest)

theorem Whole.marked (h : Whole s rest) : Marked s rest true := by
  cases h with
  | zero => exact .mark (by decide) (by decide) (.refl rest)
  | digits hs hzero => exact hs.marked

theorem Fraction.marked (h : Fraction s rest) : Marked s rest true := by
  cases h with
  | absent => exact .refl s
  | point hs => exact .mark (by decide) (by decide) hs.marked

theorem marked_sign {sign : List Char} (h : sign ∈ [[], ['+'], ['-']])
    (hs : Marked s rest true) : Marked (sign ++ s) rest true := by
  have hsigns : ∀ sign ∈ [[], ['+'], ['-']], '"' ∉ sign ∧ sign.all isMark = true := by decide
  exact Marked.append (hsigns sign h).1 (hsigns sign h).2 hs

theorem Exponent.marked (h : Exponent s rest) : Marked s rest true := by
  cases h with
  | absent => exact .refl s
  | letter he hsign hs =>
    have hletter := marked_sign hsign hs.marked
    rcases he with rfl | rfl
    · exact .mark (by decide) (by decide) hletter
    · exact .mark (by decide) (by decide) hletter

theorem Number.marked (h : Number s rest) : Marked s rest true := by
  cases h with
  | parts hsign hwhole hfraction hexponent =>
    refine marked_sign ?_ (hwhole.marked.after (hfraction.marked.after hexponent.marked))
    rcases List.mem_cons.1 hsign with rfl | hminus
    · exact List.mem_cons_self
    · exact List.mem_cons_of_mem _ (List.mem_cons_of_mem _ hminus)

theorem bareFrom_plain {c : Char} (hquote : c ≠ '"') (hslash : c ≠ '\\') (s : List Char) :
    bareFrom true (c :: s) = bareFrom true s := by
  rw [bareFrom, if_neg hquote]
  intro d more hcons
  exact absurd hcons hslash

theorem bareFrom_hexDigit {c : Char} (h : (Text.hexValue? c).isSome = true) (s : List Char) :
    bareFrom true (c :: s) = bareFrom true s := by
  refine bareFrom_plain ?_ ?_ s
  · rintro rfl
    cases h
  · rintro rfl
    cases h

/-- The characters between quotation marks do not end the string. -/
theorem Characters.bareFrom_eq (h : Characters s rest) : bareFrom true s = bareFrom true rest := by
  induction h with
  | done => rfl
  | plain hquote hslash hcontrol hs ih => rw [bareFrom_plain hquote hslash, ih]
  | letter hc hs ih => rw [bareFrom, ih]
  | unit hdigits hs ih =>
    simp only [List.mem_cons, List.not_mem_nil, or_false, forall_eq_or_imp, forall_eq] at hdigits
    obtain ⟨ha, hb, hc, hd⟩ := hdigits
    rw [bareFrom, bareFrom_hexDigit ha, bareFrom_hexDigit hb, bareFrom_hexDigit hc,
      bareFrom_hexDigit hd, ih]

theorem Quoted.marked (h : Quoted s rest) : Marked s rest true := by
  cases h with
  | @marks s rest hs =>
    refine ⟨[], ?_, rfl⟩
    have hopen : bare ('"' :: s) = bareFrom true s := rfl
    have hclose : bareFrom true ('"' :: rest) = bare rest := rfl
    rw [hopen, hs.bareFrom_eq, hclose, List.nil_append]

end Parts

mutual

/-- A value has nothing but marks outside of its strings. -/
theorem Value.marked : ∀ {s rest : List Char}, Value s rest → Marked s rest true
  | _, rest, .null => .append (by decide) (by decide) (.refl rest)
  | _, rest, .true => .append (by decide) (by decide) (.refl rest)
  | _, rest, .false => .append (by decide) (by decide) (.refl rest)
  | _, _, .number hs => hs.marked
  | _, _, .string hs => hs.marked
  | _, rest, .emptyArray hs =>
    .mark (by decide) (by decide) (hs.marked.after (.mark (by decide) (by decide) (.refl rest)))
  | _, rest, .array hs =>
    .mark (by decide) (by decide) (hs.marked.after (.mark (by decide) (by decide) (.refl rest)))
  | _, rest, .emptyObject hs =>
    .mark (by decide) (by decide) (hs.marked.after (.mark (by decide) (by decide) (.refl rest)))
  | _, rest, .object hs =>
    .mark (by decide) (by decide) (hs.marked.after (.mark (by decide) (by decide) (.refl rest)))

theorem Items.marked : ∀ {s rest : List Char}, Items s rest → Marked s rest true
  | _, _, .last hbefore hvalue hafter => hbefore.marked.after (hvalue.marked.after hafter.marked)
  | _, _, .next hbefore hvalue hafter hmore =>
    hbefore.marked.after (hvalue.marked.after (hafter.marked.after
      (.mark (by decide) (by decide) hmore.marked)))

theorem Members.marked : ∀ {s rest : List Char}, Members s rest → Marked s rest true
  | _, _, .last hbefore hname hcolon hspace hvalue hafter =>
    hbefore.marked.after (hname.marked.after (hcolon.marked.after
      (.mark (by decide) (by decide) (hspace.marked.after (hvalue.marked.after hafter.marked)))))
  | _, _, .next hbefore hname hcolon hspace hvalue hafter hmore =>
    hbefore.marked.after (hname.marked.after (hcolon.marked.after
      (.mark (by decide) (by decide) (hspace.marked.after (hvalue.marked.after
        (hafter.marked.after (.mark (by decide) (by decide) hmore.marked)))))))

end

/-- A document has nothing but marks outside of its strings. -/
theorem IsDocument.marked {text : String} (h : IsDocument text) : Marked text.toList [] true := by
  obtain ⟨value, after, hbefore, hvalue, hafter⟩ := h
  exact hbefore.marked.after (hvalue.marked.after hafter.marked)

end Maquette.Json.Grammar
