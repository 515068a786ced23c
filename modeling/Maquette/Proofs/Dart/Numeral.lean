import Maquette.Proofs.Dart.Arithmetic
import Maquette.Proofs.Number.Decimal

/-!
# Numbers in code read back

Code for a double is a sign and a numeral, and what they are rounded to has the value of the
double. The two ways to write one differ for integral values only: as a numeral without a
point and an exponent, or always with one of them. Which it is shows in the characters, so
the text of a double and the integers are told apart there.
-/

namespace Maquette

namespace Numeral

variable {n : Numeral}

/-- A point or an exponent shows in the characters of a numeral. -/
theorem isPointed_iff : n.isPointed = true ↔ '.' ∈ n.text ∨ 'e' ∈ n.text := by
  obtain ⟨whole, fraction, exponent, isWhole, hfraction, hexponent⟩ := n
  have hwhole (c : Char) (hc : Json.isDigit c = false) : c ∉ whole := by
    intro hmem
    rw [List.all_eq_true.1 isWhole.digits_only c hmem] at hc
    cases hc
  cases fraction with
  | cons digit more => simp [isPointed, text, fractionText]
  | nil =>
    cases exponent with
    | some e => simp [isPointed, text, exponentText]
    | none =>
      simp [isPointed, text, fractionText, exponentText, hwhole '.' rfl, hwhole 'e' rfl]

end Numeral

namespace Binary64

variable {x : Binary64}

theorem toRat_of_integer? {k : ℤ} (h : x.integer? = some k) : x.toRat = k := by
  obtain ⟨m, hunits, hvalue⟩ := exists_of_integer? h
  rw [← hvalue, toRat, signedUnits_of_natAbs hunits, Int.cast_mul, Int.cast_natCast,
    mul_div_cancel_right₀ _ cast_unitsPerOne_pos.ne']

/-- The doubles that are written as integers are those whose values are. -/
theorem isSome_integer?_iff (hx : x.isFinite = true) :
    x.integer?.isSome = true ↔ ∃ k : ℤ, x.toRat = k := by
  constructor
  · intro h
    obtain ⟨k, hk⟩ := Option.isSome_iff_exists.1 h
    exact ⟨k, toRat_of_integer? hk⟩
  · rintro ⟨k, hk⟩
    cases x with
    | infinite s => cases hx
    | nan => cases hx
    | finite s m =>
      have hvalue := abs_toRat_finite s m
      rw [hk, ← Int.cast_abs, ← Nat.cast_natAbs, eq_div_iff cast_unitsPerOne_pos.ne'] at hvalue
      have hunits : k.natAbs * unitsPerOne = m.units := by exact_mod_cast hvalue
      rw [integer?, if_pos (by rw [← hunits, Nat.mul_mod_left])]
      rfl

/-- Code for a number as its sign and its numeral: the double that they are rounded to has
the value of the number. Only the sign of a zero may be another one. -/
structure Denotes (x : Binary64) (code : String) (s : Bool) (n : Numeral) : Prop where
  text_eq : code.toList = signText s ++ n.text
  exists_readAs : ∃ y, (n.decimal s).ReadAs y ∧ y.isFinite = true ∧ y.toRat = x.toRat

theorem IsWritten.exists_denotes {code : String} (h : x.IsWritten code) :
    ∃ s n, x.Denotes code s n := by
  obtain ⟨s, m, n, hcode, hread, hvalue⟩ := h
  refine ⟨s, n, by rw [hcode, String.toList_ofList], .finite s m, ?_, rfl, hvalue⟩
  have hsigned : (n.decimal s).toBinary64 = .finite s m := Decimal.toBinary64_eq_finite hread s
  exact hsigned ▸ (n.decimal s).readAs_toBinary64

theorem Denotes.isPointed_iff {code : String} {s : Bool} {n : Numeral} (h : x.Denotes code s n) :
    n.isPointed = true ↔ '.' ∈ code.toList ∨ 'e' ∈ code.toList := by
  have hsign : '.' ∉ signText s ∧ 'e' ∉ signText s := by cases s <;> decide
  rw [h.text_eq, Numeral.isPointed_iff]
  simp [hsign]

theorem not_pointed_integerText (k : ℤ) :
    ¬('.' ∈ (integerText k).toList ∨ 'e' ∈ (integerText k).toList) := by
  have hdigits (c : Char) (hc : Json.isDigit c = false) : c ∉ decimalDigits k.natAbs := by
    intro hmem
    rw [isDigit_of_mem_decimalDigits hmem] at hc
    cases hc
  rw [integerText, String.toList_ofList]
  split <;> simp [hdigits '.' rfl, hdigits 'e' rfl]

theorem pointed_text (hx : x.isFinite = true) : '.' ∈ x.text.toList ∨ 'e' ∈ x.text.toList := by
  cases x with
  | infinite s => cases hx
  | nan => cases hx
  | finite s m =>
    obtain ⟨n, htext, hpointed, -⟩ := exists_text_eq s m
    rw [htext, String.toList_ofList]
    exact (Numeral.isPointed_iff.1 hpointed).imp (List.mem_append_right _) (List.mem_append_right _)

theorem pointed_literal_iff (hx : x.isFinite = true) :
    '.' ∈ x.literal.toList ∨ 'e' ∈ x.literal.toList ↔ ¬∃ k : ℤ, x.toRat = k := by
  rw [← isSome_integer?_iff hx, literal]
  cases x.integer? with
  | some k => simpa using not_pointed_integerText k
  | none => simpa using pointed_text hx

theorem pointed_fractionLiteral (hx : x.isFinite = true) :
    '.' ∈ x.fractionLiteral.toList ∨ 'e' ∈ x.fractionLiteral.toList := by
  rw [fractionLiteral]
  cases x.integer? with
  | some k => simp
  | none => exact pointed_text hx

/-- Both ways to write a finite double in code give a sign and a numeral that are rounded to
a double of the same value. One has a point or an exponent exactly if the value is not
integral, the other always. -/
theorem literals_denote (hx : x.isFinite = true) :
    (∃ s n, x.Denotes x.literal s n ∧ (n.isPointed = false ↔ ∃ k : ℤ, x.toRat = k)) ∧
      ∃ s n, x.Denotes x.fractionLiteral s n ∧ n.isPointed = true := by
  constructor
  · obtain ⟨s, n, h⟩ := (isWritten_literal hx).exists_denotes
    refine ⟨s, n, h, ?_⟩
    rw [← Bool.not_eq_true, h.isPointed_iff, pointed_literal_iff hx, not_not]
  · obtain ⟨s, n, h⟩ := (isWritten_fractionLiteral hx).exists_denotes
    exact ⟨s, n, h, h.isPointed_iff.2 (pointed_fractionLiteral hx)⟩

/-- The negative double next to zero. -/
def leastNegative : Binary64 :=
  .ofUnits true 1 1

theorem literals_denote_leastNegative :
    leastNegative.isFinite = true ∧
      (∃ s n, leastNegative.Denotes leastNegative.literal s n ∧
        (n.isPointed = false ↔ ∃ k : ℤ, leastNegative.toRat = k)) ∧
      ∃ s n, leastNegative.Denotes leastNegative.fractionLiteral s n ∧ n.isPointed = true := by
  have hfinite : leastNegative.isFinite = true := by decide +kernel
  exact ⟨hfinite, literals_denote hfinite⟩

end Binary64

end Maquette
