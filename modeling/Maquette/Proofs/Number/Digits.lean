import Maquette.Json.Reader
import Maquette.Number.Notation
import Mathlib.Algebra.Group.Nat.Defs

/-!
# Rows of digits

The digits of a number write that number and begin with a zero only if they are a
zero. That is what the integer part of a number has to look like: `IsWhole` names
it, and a reader takes such a row off a text up to the first character that is no
digit.
-/

namespace Maquette

open Json (isDigit digitsValue)

@[simp] theorem digitsValue_decimalDigits (n : Nat) : digitsValue (decimalDigits n) = n :=
  Nat.ofDigitChars_toDigits (by decide) (by decide)

theorem digitsValue_append (a b : List Char) :
    digitsValue (a ++ b) = Nat.ofDigitChars 10 b (digitsValue a) :=
  Nat.ofDigitChars_append 0

theorem ofDigitChars_zeros (k n : Nat) :
    Nat.ofDigitChars 10 (List.replicate k '0') n = n * 10 ^ k := by
  induction k generalizing n with
  | zero => simp
  | succ k ih =>
    rw [List.replicate_succ, Nat.ofDigitChars_cons, ih, Nat.pow_succ]
    simp only [Nat.sub_self, Nat.add_zero]
    rw [Nat.mul_comm 10 n, Nat.mul_assoc, Nat.mul_comm 10]

/-- Zeros after the digits of a number are as many factors of ten. -/
theorem digitsValue_append_zeros (a : List Char) (k : Nat) :
    digitsValue (a ++ List.replicate k '0') = digitsValue a * 10 ^ k := by
  rw [digitsValue_append, ofDigitChars_zeros]

/-- Zeros in front of a row of digits do not count. -/
theorem digitsValue_zeros_append (k : Nat) (a : List Char) :
    digitsValue (List.replicate k '0' ++ a) = digitsValue a := by
  rw [digitsValue_append, digitsValue, ofDigitChars_zeros, Nat.zero_mul]
  rfl

theorem isDigit_of_mem_decimalDigits {n : Nat} {c : Char} (h : c ∈ decimalDigits n) :
    isDigit c = true := by
  have hc := Nat.isDigit_of_mem_toDigits (b := 10) (by decide) (by decide) h
  unfold Char.isDigit at hc
  exact hc

theorem all_isDigit_decimalDigits (n : Nat) : (decimalDigits n).all isDigit = true :=
  List.all_eq_true.2 fun _ h => isDigit_of_mem_decimalDigits h

theorem all_isDigit_zeros (k : Nat) : (List.replicate k '0').all isDigit = true := by
  rw [List.all_eq_true]
  intro c hc
  rw [List.eq_of_mem_replicate hc]
  rfl

theorem decimalDigits_ne_nil (n : Nat) : decimalDigits n ≠ [] :=
  Nat.toDigits_ne_nil

/-- The digits of a number other than zero do not begin with a zero. -/
theorem exists_decimalDigits_eq_cons {n : Nat} (hn : n ≠ 0) :
    ∃ d rest, decimalDigits n = d :: rest ∧ d ≠ '0' := by
  induction n using Nat.strongRecOn with
  | _ n ih =>
    unfold decimalDigits
    rcases Nat.lt_or_ge n 10 with hlt | hge
    · refine ⟨Nat.digitChar n, [], Nat.toDigits_of_lt_base hlt, ?_⟩
      intro hzero
      have hvalue := Nat.toNat_digitChar_of_lt_ten hlt
      rw [hzero] at hvalue
      have hchar : '0'.toNat = 48 := rfl
      omega
    · have hquotient : n / 10 ≠ 0 := by omega
      obtain ⟨d, rest, hdigits, hd⟩ := ih (n / 10) (by omega) hquotient
      refine ⟨d, rest ++ [Nat.digitChar (n % 10)], ?_, hd⟩
      rw [Nat.toDigits_of_base_le (by decide) hge]
      unfold decimalDigits at hdigits
      rw [hdigits, List.cons_append]

/-- A text in which no digit comes next. -/
def endsDigits (rest : List Char) : Bool :=
  !rest.head?.any isDigit

@[simp] theorem endsDigits_nil : endsDigits [] = true := rfl

@[simp] theorem endsDigits_cons (c : Char) (rest : List Char) :
    endsDigits (c :: rest) = !isDigit c := rfl

theorem takeWhile_digits {digits rest : List Char} (hdigits : digits.all isDigit = true)
    (hrest : endsDigits rest = true) : (digits ++ rest).takeWhile isDigit = digits := by
  rw [List.takeWhile_append_of_pos (List.all_eq_true.1 hdigits)]
  cases rest with
  | nil => simp
  | cons c rest =>
    have hc : isDigit c = false := by simpa using hrest
    simp [hc]

theorem dropWhile_digits {digits rest : List Char} (hdigits : digits.all isDigit = true)
    (hrest : endsDigits rest = true) : (digits ++ rest).dropWhile isDigit = rest := by
  rw [List.dropWhile_append_of_pos (List.all_eq_true.1 hdigits)]
  cases rest with
  | nil => rfl
  | cons c rest =>
    have hc : isDigit c = false := by simpa using hrest
    simp [hc]

/-- The integer part of a number: digits that begin with a zero only if they are
one. -/
structure IsWhole (digits : List Char) : Prop where
  digits_only : digits.all isDigit = true
  leading : digits = ['0'] ∨ ∃ d rest, digits = d :: rest ∧ d ≠ '0'

theorem IsWhole.zero : IsWhole ['0'] :=
  ⟨rfl, .inl rfl⟩

theorem IsWhole.cons {d : Char} {rest : List Char} (h : (d :: rest).all isDigit = true)
    (hd : d ≠ '0') : IsWhole (d :: rest) :=
  ⟨h, .inr ⟨d, rest, rfl, hd⟩⟩

theorem isWhole_decimalDigits (n : Nat) : IsWhole (decimalDigits n) := by
  by_cases hn : n = 0
  · rw [hn]
    exact .zero
  · exact ⟨all_isDigit_decimalDigits n, .inr (exists_decimalDigits_eq_cons hn)⟩

theorem IsWhole.ne_nil {digits : List Char} (h : IsWhole digits) : digits ≠ [] := by
  rcases h.leading with rfl | ⟨d, rest, rfl, -⟩
  · exact List.cons_ne_nil _ _
  · exact List.cons_ne_nil _ _

theorem IsWhole.scanWhole {digits rest : List Char} (h : IsWhole digits)
    (hrest : endsDigits rest = true) : Json.scanWhole (digits ++ rest) = some (digits, rest) := by
  rcases h.leading with rfl | ⟨d, more, rfl, hd⟩
  · rfl
  · have htake := takeWhile_digits h.digits_only hrest
    have hdrop := dropWhile_digits h.digits_only hrest
    rw [List.cons_append] at htake hdrop ⊢
    unfold Json.scanWhole
    split
    · next heq =>
      injection heq with hchar
      exact absurd hchar hd
    · rw [htake, hdrop]

end Maquette
