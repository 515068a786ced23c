import Maquette.Dart.Code
import Maquette.Proofs.Dart.Plain
import Maquette.Proofs.Number.Numeral
import Maquette.Proofs.Number.Value
import Maquette.Proofs.Text.Pieces

/-!
# The value of arithmetic in code

What a product or quotient in code comes to, read off its text: numerals are the
doubles nearest to them, other words are looked up, a minus sign belongs to the word
it stands in front of, and `*` and `/` group to the left. Values are exact, so the
numerals are the only place where anything is rounded. Factors and signs stand
between single spaces, as all of our code sets them; where a text is not of this
form it has no value.

Doubles are written in two ways, with a fraction or only where there is one. A word
of either kind has the value of the double; only a negative zero loses its sign, and
the two zeros have one value.
-/

namespace Maquette

namespace Dart

/-- What the names in code stand for. -/
abbrev Scope := List (List Char × ℚ)

def words (s : List Char) : List (List Char) :=
  Text.pieces (· == ' ') s

/-- The number that a text consists of. -/
def numeral? (word : List Char) : Option Decimal := do
  let (whole, afterWhole) ← Json.scanWhole word
  let (fraction, afterFraction) := (Json.scanFraction? afterWhole).getD ([], afterWhole)
  let (exponent, after) := (Json.scanExponent? afterFraction).getD (0, afterFraction)
  if after.isEmpty then
    some ⟨false, Json.digitsValue (whole ++ fraction), exponent - fraction.length⟩
  else none

/-- The value of a numeral, which has to be within the doubles, or of a name. -/
def unsigned? (scope : Scope) (word : List Char) : Option ℚ :=
  match numeral? word with
  | some d => if d.toBinary64.isFinite then some d.toBinary64.toRat else none
  | none => scope.lookup word

def factor? (scope : Scope) : List Char → Option ℚ
  | '-' :: word => (unsigned? scope word).map fun x => -x
  | word => unsigned? scope word

/-- The value so far multiplied and divided by the factors that follow. -/
def product? (scope : Scope) : ℚ → List (List Char) → Option ℚ
  | x, [] => some x
  | x, ['*'] :: word :: more => do product? scope (x * (← factor? scope word)) more
  | x, ['/'] :: word :: more => do
    let y ← factor? scope word
    if y = 0 then none else product? scope (x / y) more
  | _, _ => none

def wordsValue? (scope : Scope) : List (List Char) → Option ℚ
  | [] => none
  | word :: more => do product? scope (← factor? scope word) more

/-- The value of code. -/
def value? (scope : Scope) (code : List Char) : Option ℚ :=
  wordsValue? scope (words code)

/-- The names after the declaration of a number. -/
def declare? (scope : Scope) : Statement → Option Scope
  | .line text =>
    match words text.toList.dropLast with
    | final :: double :: name :: equals :: code =>
      if text.toList.getLast? = some ';' ∧ final = "final".toList ∧ double = "double".toList ∧
          equals = ['='] then
        (wordsValue? scope code).map fun x => (name, x) :: scope
      else none
    | _ => none
  | _ => none

/-- The names after several declarations, each of which may use those before it. -/
def declareAll? : Scope → List Statement → Option Scope
  | scope, [] => some scope
  | scope, statement :: rest => do declareAll? (← declare? scope statement) rest

/-! ## Words -/

theorem words_eq_singleton {s : List Char} (h : ' ' ∉ s) : words s = [s] :=
  Text.pieces_of_all fun _ hc => beq_eq_false_iff_ne.2 (ne_of_mem_of_not_mem hc h)

/-- The first space of a text ends its first word. -/
theorem words_append_space {s : List Char} (h : ' ' ∉ s) (rest : List Char) :
    words (s ++ ' ' :: rest) = s :: words rest := by
  have hs := words_eq_singleton h
  unfold words at hs ⊢
  rw [Text.pieces_append_cons (p := (· == ' ')) rfl, hs, List.singleton_append]

/-! ## Numerals -/

theorem numeral?_text (n : Numeral) : numeral? n.text = some (n.decimal false) := by
  have hwhole := n.scanWhole_text Numeral.ends_nil
  obtain ⟨whole, fraction, exponent, isWhole, hfraction, hexponent⟩ := n
  rw [List.append_nil] at hwhole
  have hfractions : (Json.scanFraction? (Numeral.fractionText fraction ++
      (Numeral.exponentText exponent ++ []))).getD
        ([], Numeral.fractionText fraction ++ (Numeral.exponentText exponent ++ [])) =
      (fraction, Numeral.exponentText exponent ++ []) := by
    cases fraction with
    | nil =>
      have hnone := Numeral.scanFraction?_exponentText (e := exponent) Numeral.ends_nil
      simp only [Numeral.fractionText, List.nil_append, hnone, Option.getD_none]
    | cons digit more =>
      rw [Numeral.scanFraction?_fractionText hfraction
        (Numeral.endsDigits_exponentText Numeral.ends_nil), Option.getD_some]
  have hexponents : (Json.scanExponent? (Numeral.exponentText exponent ++ [])).getD
      (0, Numeral.exponentText exponent ++ []) = (Numeral.scale exponent, []) := by
    cases exponent with
    | none => rfl
    | some e =>
      obtain ⟨hne, hdigits⟩ := hexponent e rfl
      rw [Numeral.scanExponent?_exponentText e.1 hne hdigits endsDigits_nil, Option.getD_some]
  unfold numeral?
  rw [hwhole]
  simp only [bind, Option.bind, hfractions, hexponents, List.isEmpty_nil, if_true, Numeral.decimal]

/-- A signed numeral has the value of the double that it writes. -/
theorem factor?_signed (scope : Scope) (n : Numeral) {m : Magnitude}
    (h : (n.decimal false).toBinary64 = .finite false m) (s : Bool) :
    factor? scope (Binary64.signText s ++ n.text) = some (Binary64.toRat (.finite s m)) := by
  have hunsigned : unsigned? scope n.text = some (Binary64.toRat (.finite false m)) := by
    rw [unsigned?, numeral?_text]
    simp only [h, Binary64.isFinite_finite, if_true]
  cases s with
  | true =>
    have hword : Binary64.signText true ++ n.text = '-' :: n.text := rfl
    rw [hword, factor?, hunsigned, Binary64.toRat_finite_true]
    rfl
  | false =>
    have hword : Binary64.signText false ++ n.text = n.text := rfl
    rw [hword, ← hunsigned]
    obtain ⟨d, rest, htext, hd⟩ := n.exists_text_eq_cons
    have hminus : d ≠ '-' := by
      rintro rfl
      exact absurd hd (by decide)
    unfold factor?
    split
    · next heq =>
      rw [htext] at heq
      exact absurd (List.cons.inj heq).1 hminus
    · rfl

end Dart

namespace Binary64

/-- The text of an integral double: whether it has a minus sign does not change its
value. -/
theorem exists_sign_of_integer? {s : Bool} {m : Magnitude} {k : Int}
    (h : integer? (.finite s m) = some k) :
    m.units = k.natAbs * unitsPerOne ∧
      toRat (.finite (decide (k < 0)) m) = toRat (.finite s m) := by
  simp only [integer?] at h
  split at h
  · next hmod =>
    have hk : integerPart s m = k := Option.some.inj h
    have hunits : m.units / unitsPerOne * unitsPerOne = m.units :=
      Nat.div_mul_cancel (Nat.dvd_of_mod_eq_zero hmod)
    subst hk
    cases s with
    | false =>
      have hpart : integerPart false m = ((m.units / unitsPerOne : Nat) : Int) := rfl
      have hsign : decide (integerPart false m < 0) = false := by
        rw [hpart]
        exact decide_eq_false (Int.not_lt.2 (Int.natCast_nonneg _))
      rw [hsign, hpart, Int.natAbs_natCast, hunits]
      exact ⟨rfl, rfl⟩
    | true =>
      have hpart : integerPart true m = -((m.units / unitsPerOne : Nat) : Int) := rfl
      rw [hpart, Int.natAbs_neg, Int.natAbs_natCast, hunits]
      refine ⟨rfl, ?_⟩
      by_cases hzero : m.units / unitsPerOne = 0
      · have hm : m.units = 0 := by rw [← hunits, hzero, Nat.zero_mul]
        have hvalue (s : Bool) : toRat (.finite s m) = 0 := by
          have hsigned : signedUnits s m = 0 := by
            rw [signedUnits, hm]
            cases s <;> rfl
          rw [toRat, hsigned, Int.cast_zero, zero_div]
        rw [hvalue, hvalue]
      · have hsign : decide (-((m.units / unitsPerOne : Nat) : Int) < 0) = true :=
          decide_eq_true (Int.neg_neg_of_pos (Int.natCast_pos.2 (Nat.pos_of_ne_zero hzero)))
        rw [hsign]
  · cases h

/-- What the number of an integral double is written with reads back as it. -/
theorem toBinary64_integral {m : Magnitude} {k : Nat} (h : m.units = k * unitsPerOne)
    (s : Bool) : Decimal.toBinary64 ⟨s, k, 0⟩ = .finite s m := by
  have hunits : k * Nat.pow 10 0 * unitsPerOne = m.units * Nat.pow 10 0 := by
    rw [h, Nat.pow_eq, Nat.pow_zero, Nat.mul_one, Nat.mul_one]
  rw [Decimal.toBinary64_of_small (by dsimp only; omega) (by dsimp only; omega)]
  unfold Decimal.nearest ofRatio
  dsimp only
  rw [Int.toNat_zero, Int.neg_zero, Int.toNat_zero, hunits]
  exact ofUnits_of_magnitude s m (Decimal.ten_pow_pos 0)

/-- A word in code is a sign and a numeral with the value of the number. -/
def IsWritten (x : Binary64) (code : String) : Prop :=
  ∃ s m, ∃ n : Numeral, code = String.ofList (signText s ++ n.text) ∧
    (n.decimal false).toBinary64 = .finite false m ∧ toRat (.finite s m) = x.toRat

theorem isWritten_text {x : Binary64} (h : x.isFinite = true) : IsWritten x x.text := by
  cases x with
  | finite s m =>
    obtain ⟨n, htext, -, hvalue⟩ := exists_text_eq s m
    exact ⟨s, m, n, htext, Decimal.toBinary64_eq_finite hvalue false, rfl⟩
  | infinite s => cases h
  | nan => cases h

section Integral

variable {x : Binary64} {k : Int}

theorem exists_of_integer? (h : x.integer? = some k) :
    ∃ m, m.units = k.natAbs * unitsPerOne ∧ toRat (.finite (decide (k < 0)) m) = x.toRat := by
  cases x with
  | finite s m => exact ⟨m, exists_sign_of_integer? h⟩
  | infinite s => cases h
  | nan => cases h

theorem isWritten_integerText (h : x.integer? = some k) : IsWritten x (integerText k) := by
  obtain ⟨m, hunits, hsign⟩ := exists_of_integer? h
  refine ⟨decide (k < 0), m,
    ⟨decimalDigits k.natAbs, [], none, isWhole_decimalDigits _, rfl, by simp⟩, ?_, ?_, hsign⟩
  · simp [integerText, signText, Numeral.text, Numeral.fractionText, Numeral.exponentText]
  · have h := toBinary64_integral hunits false
    simpa [Numeral.decimal, Numeral.scale] using h

theorem isWritten_integerText_fraction (h : x.integer? = some k) :
    IsWritten x (integerText k ++ ".0") := by
  obtain ⟨m, hunits, hsign⟩ := exists_of_integer? h
  refine ⟨decide (k < 0), m,
    ⟨decimalDigits k.natAbs, ['0'], none, isWhole_decimalDigits _, rfl, by simp⟩, ?_, ?_, hsign⟩
  · apply String.toList_inj.1
    simp [integerText, signText, Numeral.text, Numeral.fractionText, Numeral.exponentText]
  · have h := toBinary64_integral hunits false
    have hvalue : Json.digitsValue (decimalDigits k.natAbs ++ ['0']) = k.natAbs * 10 ^ 1 := by
      have hzeros := digitsValue_append_zeros (decimalDigits k.natAbs) 1
      rwa [digitsValue_decimalDigits] at hzeros
    have hshift := Decimal.toBinary64_mul_pow false k.natAbs 1 0 (by decide) (by decide)
    rw [← h, ← hshift, ← hvalue]
    rfl

end Integral

theorem isWritten_literal {x : Binary64} (h : x.isFinite = true) : IsWritten x x.literal := by
  unfold literal
  split
  · next k hk => exact isWritten_integerText hk
  · exact isWritten_text h

theorem isWritten_fractionLiteral {x : Binary64} (h : x.isFinite = true) :
    IsWritten x x.fractionLiteral := by
  unfold fractionLiteral
  split
  · next k hk => exact isWritten_integerText_fraction hk
  · exact isWritten_text h

end Binary64

namespace Dart

theorem factor?_of_isWritten (scope : Scope) {x : Binary64} {code : String}
    (h : x.IsWritten code) : factor? scope code.toList = some x.toRat := by
  obtain ⟨s, m, n, hcode, hvalue, hx⟩ := h
  rw [hcode, String.toList_ofList, factor?_signed scope n hvalue s, hx]

theorem factor?_literal (scope : Scope) {x : Binary64} (h : x.isFinite = true) :
    factor? scope x.literal.toList = some x.toRat :=
  factor?_of_isWritten scope (Binary64.isWritten_literal h)

theorem factor?_fractionLiteral (scope : Scope) {x : Binary64} (h : x.isFinite = true) :
    factor? scope x.fractionLiteral.toList = some x.toRat :=
  factor?_of_isWritten scope (Binary64.isWritten_fractionLiteral h)

/-- A row of word characters is one word. -/
theorem space_not_mem_of_all {s : List Char} (h : s.all isWordChar = true) : ' ' ∉ s := by
  intro hmem
  exact absurd (List.all_eq_true.1 h ' ' hmem) (by decide)

/-! ## Code of one or two factors -/

theorem value?_word (scope : Scope) {word : List Char} (h : ' ' ∉ word) :
    value? scope word = factor? scope word := by
  rw [value?, words_eq_singleton h]
  simp only [wordsValue?, product?, bind]
  cases factor? scope word <;> rfl

section Factors

variable {scope : Scope} {left right : List Char} {x y : ℚ}

theorem words_operator (hleft : ' ' ∉ left) (hright : ' ' ∉ right) {operator : Char}
    (hoperator : operator ≠ ' ') :
    words (left ++ ' ' :: operator :: ' ' :: right) = [left, [operator], right] := by
  have hword : ' ' ∉ [operator] := by simpa using hoperator.symm
  have hrest := words_append_space hword right
  rw [List.singleton_append] at hrest
  rw [words_append_space hleft, hrest, words_eq_singleton hright]

theorem value?_times (hleft : ' ' ∉ left) (hright : ' ' ∉ right)
    (hx : factor? scope left = some x) (hy : factor? scope right = some y) :
    value? scope (left ++ ' ' :: '*' :: ' ' :: right) = some (x * y) := by
  rw [value?, words_operator hleft hright (by decide)]
  simp only [wordsValue?, product?, hx, hy, bind, Option.bind]

theorem value?_over (hleft : ' ' ∉ left) (hright : ' ' ∉ right)
    (hx : factor? scope left = some x) (hy : factor? scope right = some y) (hzero : y ≠ 0) :
    value? scope (left ++ ' ' :: '/' :: ' ' :: right) = some (x / y) := by
  rw [value?, words_operator hleft hright (by decide)]
  simp only [wordsValue?, product?, hx, hy, bind, Option.bind, if_neg hzero]

end Factors

theorem declare?_line {scope : Scope} {text : String} {name code : List Char}
    (htext : text.toList = "final double ".toList ++ name ++ " = ".toList ++ code ++ [';'])
    (hname : ' ' ∉ name) {x : ℚ} (hcode : value? scope code = some x) :
    declare? scope (.line text) = some ((name, x) :: scope) := by
  have hwords : words ("final double ".toList ++ name ++ " = ".toList ++ code) =
      "final".toList :: "double".toList :: name :: ['='] :: words code := by
    have hspaces : "final double ".toList ++ name ++ " = ".toList ++ code =
        "final".toList ++ ' ' :: ("double".toList ++ ' ' :: (name ++ ' ' :: (['='] ++ ' ' :: code))) := by
      simp
    rw [hspaces, words_append_space (by decide), words_append_space (by decide),
      words_append_space hname, words_append_space (by decide)]
  unfold value? at hcode
  generalize "final double ".toList ++ name ++ " = ".toList ++ code = declaration
    at htext hwords
  simp only [declare?, htext, List.dropLast_concat, List.getLast?_concat, hwords,
    hcode, and_self, if_true, Option.map_some]

end Dart

end Maquette
