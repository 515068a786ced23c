import Maquette.Proofs.Number.Digits
import Maquette.Proofs.Number.Shortest

/-!
# Numerals

A numeral is an unsigned number as it stands in a text: the digits before the
point, the digits after it if there is a point, and an exponent if there is one. Its
fields say what a reader relies on, so every numeral is read, and read as the
decimal that it writes.

The notation of the doubles has a form for every size, and all of them are numerals
with a point or an exponent. `exists_numeral_text` is what the other theories need to
know about the text of a double: it is a sign and a numeral, and the double that is
nearest to the numeral is the one that was written.
-/

namespace Maquette

open Json (isDigit digitsValue)

/-- An unsigned number in a text. The exponent is a sign, minus counting as true, with
digits. -/
structure Numeral where
  whole : List Char
  fraction : List Char
  exponent : Option (Bool × List Char)
  isWhole : IsWhole whole
  fraction_digits : fraction.all isDigit = true
  exponent_digits : ∀ e ∈ exponent, e.2 ≠ [] ∧ e.2.all isDigit = true

namespace Numeral

def fractionText : List Char → List Char
  | [] => []
  | digit :: more => '.' :: digit :: more

def exponentText : Option (Bool × List Char) → List Char
  | none => []
  | some (negative, digits) => 'e' :: (if negative then '-' else '+') :: digits

def text (n : Numeral) : List Char :=
  n.whole ++ (fractionText n.fraction ++ exponentText n.exponent)

/-- The value of an exponent. -/
def scale : Option (Bool × List Char) → Int
  | none => 0
  | some (negative, digits) => if negative then -(digitsValue digits : Int) else digitsValue digits

/-- What a numeral writes behind a sign. -/
def decimal (n : Numeral) (negative : Bool) : Decimal :=
  ⟨negative, digitsValue (n.whole ++ n.fraction), scale n.exponent - n.fraction.length⟩

/-- A numeral with a point or an exponent. -/
def isPointed (n : Numeral) : Bool :=
  !n.fraction.isEmpty || n.exponent.isSome

/-- A numeral begins with a digit. -/
theorem exists_text_eq_cons (n : Numeral) :
    ∃ d rest, n.text = d :: rest ∧ isDigit d = true := by
  obtain ⟨d, more, hwhole⟩ := List.exists_cons_of_ne_nil n.isWhole.ne_nil
  refine ⟨d, more ++ (fractionText n.fraction ++ exponentText n.exponent), ?_, ?_⟩
  · rw [text, hwhole, List.cons_append]
  · have hdigits := n.isWhole.digits_only
    rw [hwhole, List.all_cons, Bool.and_eq_true] at hdigits
    exact hdigits.1

/-! ## Reading -/

/-- A text that does not go on with the number in front of it. -/
def ends (rest : List Char) : Bool :=
  !rest.head?.any fun c => isDigit c || c == '.' || c == 'e' || c == 'E'

@[simp] theorem ends_nil : ends [] = true := rfl

theorem endsDigits_of_ends {rest : List Char} (h : ends rest = true) : endsDigits rest = true := by
  cases rest with
  | nil => rfl
  | cons c rest =>
    simp only [ends, List.head?_cons, Option.any_some, Bool.not_eq_true', Bool.or_eq_false_iff] at h
    simp [h.1.1.1]

theorem endsDigits_exponentText {e : Option (Bool × List Char)} {rest : List Char}
    (h : ends rest = true) : endsDigits (exponentText e ++ rest) = true := by
  cases e with
  | none => exact endsDigits_of_ends h
  | some e => rfl

theorem endsDigits_fractionText {f : List Char} {e : Option (Bool × List Char)}
    {rest : List Char} (h : ends rest = true) :
    endsDigits (fractionText f ++ (exponentText e ++ rest)) = true := by
  cases f with
  | nil => exact endsDigits_exponentText h
  | cons digit more => rfl

theorem scanFraction?_exponentText {e : Option (Bool × List Char)} {rest : List Char}
    (h : ends rest = true) : Json.scanFraction? (exponentText e ++ rest) = none := by
  cases e with
  | some e => rfl
  | none =>
    cases rest with
    | nil => rfl
    | cons c rest =>
      simp only [ends, List.head?_cons, Option.any_some, Bool.not_eq_true', Bool.or_eq_false_iff,
        beq_eq_false_iff_ne] at h
      unfold Json.scanFraction? exponentText
      rw [List.nil_append]
      split
      · next heq =>
        injection heq with hpoint
        exact absurd hpoint h.1.1.2
      · rfl

theorem scanFraction?_fractionText {digit : Char} {more rest : List Char}
    (hdigits : (digit :: more).all isDigit = true) (hrest : endsDigits rest = true) :
    Json.scanFraction? (fractionText (digit :: more) ++ rest) = some (digit :: more, rest) := by
  have htake := takeWhile_digits hdigits hrest
  have hdrop := dropWhile_digits hdigits hrest
  unfold fractionText Json.scanFraction?
  rw [List.cons_append]
  simp only [htake, hdrop]

theorem scanExponent?_of_ends {rest : List Char} (h : ends rest = true) :
    Json.scanExponent? rest = none := by
  cases rest with
  | nil => rfl
  | cons c rest =>
    simp only [ends, List.head?_cons, Option.any_some, Bool.not_eq_true', Bool.or_eq_false_iff,
      beq_eq_false_iff_ne] at h
    have hletter : ¬(c = 'e' ∨ c = 'E') := by
      rintro (he | he)
      · exact h.1.2 he
      · exact h.2 he
    unfold Json.scanExponent?
    exact if_neg hletter

theorem scanExponent?_exponentText (negative : Bool) {digits rest : List Char}
    (hne : digits ≠ []) (hdigits : digits.all isDigit = true) (hrest : endsDigits rest = true) :
    Json.scanExponent? (exponentText (some (negative, digits)) ++ rest) =
      some (scale (some (negative, digits)), rest) := by
  cases digits with
  | nil => exact absurd rfl hne
  | cons digit more =>
    have htake := takeWhile_digits hdigits hrest
    have hdrop := dropWhile_digits hdigits hrest
    rw [List.cons_append] at htake hdrop
    cases negative <;> simp [Json.scanExponent?, exponentText, scale, htake, hdrop]

/-- The integer part of a numeral is taken off in front of the rest of it. -/
theorem scanWhole_text (n : Numeral) {rest : List Char} (h : ends rest = true) :
    Json.scanWhole (n.text ++ rest) =
      some (n.whole, fractionText n.fraction ++ (exponentText n.exponent ++ rest)) := by
  unfold text
  rw [List.append_assoc, List.append_assoc]
  exact n.isWhole.scanWhole (endsDigits_fractionText h)

/-- A numeral with a point or an exponent is read as the nearest double. -/
theorem readUnsigned_text (limits : Json.Limits) (negative : Bool) (n : Numeral)
    (hpointed : n.isPointed = true) {rest : List Char} (h : ends rest = true) :
    Json.readUnsigned limits negative (n.text ++ rest) =
      .ok (.number (n.decimal negative).toBinary64, rest) := by
  have hwhole := n.scanWhole_text h
  obtain ⟨whole, fraction, exponent, isWhole, hfraction, hexponent⟩ := n
  unfold Json.readUnsigned
  rw [hwhole]
  cases fraction with
  | cons digit more =>
    have hscan := scanFraction?_fractionText hfraction (endsDigits_exponentText (e := exponent) h)
    simp only [Json.present, decimal]
    cases exponent with
    | none =>
      have hnone := scanExponent?_of_ends h
      simp only [exponentText, List.nil_append] at hscan ⊢
      simp [bind, Except.bind, pure, Except.pure, hscan, hnone, scale]
    | some e =>
      obtain ⟨hne, hdigits⟩ := hexponent e rfl
      have hsome := scanExponent?_exponentText e.1 hne hdigits (endsDigits_of_ends h)
      simp [bind, Except.bind, pure, Except.pure, hscan, hsome]
  | nil =>
    cases exponent with
    | none => cases hpointed
    | some e =>
      obtain ⟨hne, hdigits⟩ := hexponent e rfl
      have hnone := scanFraction?_exponentText (e := some e) h
      have hsome := scanExponent?_exponentText e.1 hne hdigits (endsDigits_of_ends h)
      simp [Json.present, fractionText, bind, Except.bind, pure, Except.pure, hnone, hsome, decimal]

/-- Digits without a point or an exponent are read as an integer. -/
theorem readUnsigned_decimalDigits (negative : Bool) (k : Nat) {rest : List Char}
    (h : ends rest = true) :
    Json.readUnsigned .none negative (decimalDigits k ++ rest) =
      .ok (.integer (if negative then -(k : Int) else k), rest) := by
  have hwhole := (isWhole_decimalDigits k).scanWhole (endsDigits_of_ends h)
  have hfraction := scanFraction?_exponentText (e := none) h
  have hexponent := scanExponent?_of_ends h
  simp only [exponentText, List.nil_append] at hfraction
  unfold Json.readUnsigned
  simp [hwhole, Json.present, bind, Except.bind, pure, Except.pure, hfraction, hexponent,
    Json.readInteger, Json.Limits.none]

/-! ## The written forms of a decimal -/

/-- A text is a numeral with a point or an exponent, and behind either sign it is read
as the double nearest to the decimal with this coefficient and exponent. -/
def Writes (chars : List Char) (coefficient : Nat) (e : Int) : Prop :=
  ∃ n : Numeral, chars = n.text ∧ n.isPointed = true ∧
    ∀ negative, (n.decimal negative).toBinary64 =
      Decimal.toBinary64 ⟨negative, coefficient, e⟩

theorem fractionText_of_ne_nil {f : List Char} (h : f ≠ []) : fractionText f = '.' :: f := by
  cases f with
  | nil => exact absurd rfl h
  | cons digit more => rfl

theorem isPointed_of_fraction {n : Numeral} (h : n.fraction ≠ []) : n.isPointed = true := by
  simp [isPointed, h]

theorem toBinary64_zero_congr (negative : Bool) (e e' : Int) :
    Decimal.toBinary64 ⟨negative, 0, e⟩ = Decimal.toBinary64 ⟨negative, 0, e'⟩ := by
  unfold Decimal.toBinary64 Decimal.nearest Binary64.ofRatio
  refine Binary64.ofUnits_congr negative (Decimal.ten_pow_pos _) (Decimal.ten_pow_pos _) ?_
  simp only [Nat.zero_mul]

/-- A zero, whatever its exponent. -/
theorem writes_zero (e : Int) : Writes ['0', '.', '0'] 0 e := by
  refine ⟨⟨['0'], ['0'], none, .zero, rfl, by simp⟩, rfl, rfl, ?_⟩
  intro negative
  have hvalue : digitsValue (['0'] ++ ['0']) = 0 := rfl
  rw [decimal, hvalue]
  exact toBinary64_zero_congr negative _ e

section Forms

variable {d : Char} {more : List Char}

/-- A number below one: zeros in front of the digits move them away from the point. -/
theorem writes_below_one (hdigits : (d :: more).all isDigit = true) (zeros : Nat) :
    Writes ('0' :: '.' :: (List.replicate zeros '0' ++ d :: more)) (digitsValue (d :: more))
      (-((zeros + (d :: more).length : Nat) : Int)) := by
  have hne : List.replicate zeros '0' ++ d :: more ≠ [] := by simp
  have hall : (List.replicate zeros '0' ++ d :: more).all isDigit = true := by
    rw [List.all_append, all_isDigit_zeros, hdigits, Bool.true_and]
  refine ⟨⟨['0'], List.replicate zeros '0' ++ d :: more, none, .zero, hall, by simp⟩,
    ?_, isPointed_of_fraction hne, ?_⟩
  · simp only [text, fractionText_of_ne_nil hne, exponentText, List.append_nil]
    rfl
  · intro negative
    have hvalue : digitsValue (['0'] ++ (List.replicate zeros '0' ++ d :: more)) =
        digitsValue (d :: more) := by
      rw [← List.append_assoc]
      exact digitsValue_zeros_append (zeros + 1) _
    simp only [decimal, hvalue, scale, List.length_append, List.length_replicate, Int.zero_sub]

/-- A number without a fraction: the zeros after its digits are factors of ten. -/
theorem writes_integral (hdigits : (d :: more).all isDigit = true) (hd : d ≠ '0') (zeros : Nat)
    (hzeros : zeros ≤ 400) :
    Writes (d :: more ++ List.replicate zeros '0' ++ ['.', '0']) (digitsValue (d :: more))
      zeros := by
  have hall : (d :: more ++ List.replicate zeros '0').all isDigit = true := by
    rw [List.all_append, all_isDigit_zeros, hdigits, Bool.true_and]
  refine ⟨⟨d :: more ++ List.replicate zeros '0', ['0'], none, .cons hall hd, rfl, by simp⟩,
    ?_, rfl, ?_⟩
  · simp [text, fractionText, exponentText]
  · intro negative
    have hvalue : digitsValue (d :: more ++ List.replicate zeros '0' ++ ['0']) =
        digitsValue (d :: more) * 10 ^ (zeros + 1) := by
      rw [List.append_assoc, ← List.replicate_succ']
      exact digitsValue_append_zeros _ _
    have hscale : (0 : Int) - ((1 : Nat) : Int) = (zeros : Int) - ((zeros + 1 : Nat) : Int) := by
      omega
    simp only [decimal, hvalue, scale, List.length_singleton, hscale]
    exact Decimal.toBinary64_mul_pow negative _ _ _ (by omega) (by omega)

/-- A number with its point among its digits. -/
theorem writes_point_inside (hdigits : (d :: more).all isDigit = true) (hd : d ≠ '0')
    (places : Nat) (hplaces : 0 < places) (hlt : places < (d :: more).length) :
    Writes ((d :: more).take places ++ '.' :: (d :: more).drop places)
      (digitsValue (d :: more)) (-(((d :: more).length - places : Nat) : Int)) := by
  obtain ⟨before, rfl⟩ : ∃ before, places = before + 1 := ⟨places - 1, by omega⟩
  have hsub {digits : List Char} (hsub : ∀ c ∈ digits, c ∈ d :: more) :
      digits.all isDigit = true := by
    rw [List.all_eq_true] at hdigits ⊢
    intro c hc
    exact hdigits c (hsub c hc)
  have htake : ((d :: more).take (before + 1)).all isDigit = true :=
    hsub fun _ => List.mem_of_mem_take
  have hdrop : ((d :: more).drop (before + 1)).all isDigit = true :=
    hsub fun _ => List.mem_of_mem_drop
  have hne : (d :: more).drop (before + 1) ≠ [] := by
    intro hnil
    have hshort := List.drop_eq_nil_iff.1 hnil
    omega
  refine ⟨⟨(d :: more).take (before + 1), (d :: more).drop (before + 1), none, .cons htake hd,
    hdrop, by simp⟩, ?_, isPointed_of_fraction hne, ?_⟩
  · simp only [text, fractionText_of_ne_nil hne, exponentText, List.append_nil]
  · intro negative
    simp only [decimal, List.take_append_drop, scale, List.length_drop, Int.zero_sub]

/-- A number with one digit before the point and an exponent. -/
theorem writes_exponent (hdigits : (d :: more).all isDigit = true) (hd : d ≠ '0') (width : Nat)
    (leading : Int) :
    Writes (Decimal.oneBeforePoint (d :: more) ++ 'e' :: Decimal.exponentText width leading)
      (digitsValue (d :: more)) (leading - more.length) := by
  obtain ⟨zeros, hzeros⟩ : ∃ zeros, Decimal.exponentText width leading =
      (if leading < 0 then '-' else '+') ::
        (List.replicate zeros '0' ++ decimalDigits leading.natAbs) := ⟨_, rfl⟩
  generalize hscale : List.replicate zeros '0' ++ decimalDigits leading.natAbs = row at hzeros
  have hrow : row ≠ [] ∧ row.all isDigit = true := by
    subst hscale
    constructor
    · simp [decimalDigits_ne_nil]
    · rw [List.all_append, all_isDigit_zeros, all_isDigit_decimalDigits, Bool.true_and]
  have hvalue : digitsValue row = leading.natAbs := by
    rw [← hscale, digitsValue_zeros_append, digitsValue_decimalDigits]
  simp only [List.all_cons, Bool.and_eq_true] at hdigits
  refine ⟨⟨[d], more, some (decide (leading < 0), row), .cons ?_ hd, hdigits.2, ?_⟩, ?_, ?_, ?_⟩
  · simp [hdigits.1]
  · rintro e ⟨⟩
    exact hrow
  · rw [hzeros]
    cases more <;> simp [Decimal.oneBeforePoint, text, fractionText, exponentText]
  · simp [isPointed]
  · intro negative
    have hleading : scale (some (decide (leading < 0), row)) = leading := by
      simp only [scale, hvalue, decide_eq_true_eq]
      split <;> omega
    simp only [decimal, hleading, List.singleton_append]

/-- The point falls in front of the digits, among them or behind them. -/
theorem writes_positional (hdigits : (d :: more).all isDigit = true) (hd : d ≠ '0') (e : Int)
    (he : e ≤ 400) :
    Writes (Decimal.positional (d :: more) (e + (d :: more).length)) (digitsValue (d :: more))
      e := by
  have hlength : (d :: more).length = more.length + 1 := List.length_cons
  unfold Decimal.positional
  split
  · next hwhole =>
    have h := writes_below_one hdigits (-(e + ((d :: more).length : Int))).toNat
    have hscale : -(((-(e + ((d :: more).length : Int))).toNat + (d :: more).length : Nat) : Int) =
        e := by omega
    rw [hscale] at h
    exact h
  · next hwhole =>
    dsimp only
    split
    · next hle =>
      have h := writes_integral hdigits hd
        ((e + ((d :: more).length : Int)).toNat - (d :: more).length) (by omega)
      have hscale : (((e + ((d :: more).length : Int)).toNat - (d :: more).length : Nat) : Int) =
          e := by omega
      rw [hscale] at h
      exact h
    · next hlt =>
      have h := writes_point_inside hdigits hd (e + ((d :: more).length : Int)).toNat
        (by omega) (by omega)
      have hscale : -(((d :: more).length - (e + ((d :: more).length : Int)).toNat : Nat) : Int) =
          e := by omega
      rw [hscale] at h
      exact h

end Forms

/-- Every written form of a decimal is a numeral that is read as the decimal. -/
theorem writes_written (d : Decimal) : Writes (d.written .plain) d.coefficient d.exponent := by
  obtain ⟨s, c, e⟩ := d
  unfold Decimal.written
  dsimp only
  by_cases hc : c = 0
  · rw [if_pos hc, hc]
    exact writes_zero e
  · obtain ⟨d, more, hdigits, hd⟩ := exists_decimalDigits_eq_cons hc
    have hall := all_isDigit_decimalDigits c
    have hvalue := digitsValue_decimalDigits c
    have hlength : (d :: more).length = more.length + 1 := List.length_cons
    rw [hdigits] at hall hvalue
    rw [if_neg hc, hdigits, ← hvalue]
    split
    · next hrange =>
      unfold Notation.plain at hrange
      dsimp only at hrange
      rw [Int.sub_add_cancel]
      exact writes_positional hall hd e (by omega)
    · have he : e = e + (d :: more).length - 1 - more.length := by omega
      have h := writes_exponent hall hd 2 (e + (d :: more).length - 1)
      rw [← he] at h
      exact h

end Numeral

namespace Binary64

/-- The text of a finite double is a sign and a numeral, and the double nearest to the
numeral behind that sign is the one that was written. -/
theorem exists_text_eq (s : Bool) (m : Magnitude) :
    ∃ n : Numeral, (finite s m).text = String.ofList (signText s ++ n.text) ∧
      n.isPointed = true ∧ (n.decimal s).toBinary64 = .finite s m := by
  obtain ⟨n, htext, hpointed, hvalue⟩ := Numeral.writes_written (Decimal.shortest m)
  refine ⟨n, ?_, hpointed, ?_⟩
  · rw [text, htext]
  · rw [hvalue s]
    exact Decimal.toBinary64_shortest m s

end Binary64

end Maquette
