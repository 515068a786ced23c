import Maquette.Proofs.Text.Trimmed
import Maquette.Text.Hex

/-!
# Hexadecimal digits

Hexadecimal digits are ASCII letters and digits, their values do not depend on case, and
the capital form of a digit is determined by its value.
-/

namespace Maquette.Text

variable {c : Char} {n : Nat}

/-- A hexadecimal digit in either case. -/
def isHexDigit (c : Char) : Bool :=
  (hexValue? c).isSome

theorem hexValue?_eq_none (hc : 128 ≤ c.toNat) : hexValue? c = none := by
  have hbound (d : Char) (hd : d.toNat < 128) : ¬c ≤ d := by
    rw [Char.le_def, UInt32.le_iff_toNat_le]
    exact Nat.not_le.2 (Nat.lt_of_lt_of_le hd hc)
  unfold hexValue?
  rw [if_neg fun h => hbound '9' (by decide) h.2, if_neg fun h => hbound 'f' (by decide) h.2,
    if_neg fun h => hbound 'F' (by decide) h.2]

theorem lt_of_isHexDigit (hc : isHexDigit c = true) : c.toNat < 128 := by
  by_contra hge
  rw [isHexDigit, hexValue?_eq_none (Nat.le_of_not_lt hge)] at hc
  cases hc

theorem isBlank_of_isHexDigit (hc : isHexDigit c = true) : isBlank c = false := by
  have hascii : ∀ n < 128, isHexDigit (Char.ofNat n) = true → isBlank (Char.ofNat n) = false := by
    decide
  have h := hascii c.toNat (lt_of_isHexDigit hc)
  rw [Char.ofNat_toNat] at h
  exact h hc

theorem hexValue?_toLower (c : Char) : hexValue? c.toLower = hexValue? c :=
  forall_char_of_ascii (p := fun c => hexValue? c.toLower = hexValue? c) (by decide)
    fun hc => by rw [toLower_eq_self hc]

theorem hexValue?_toUpper (c : Char) : hexValue? c.toUpper = hexValue? c :=
  forall_char_of_ascii (p := fun c => hexValue? c.toUpper = hexValue? c) (by decide)
    fun hc => by rw [toUpper_eq_self hc]

/-- The capital form of a hexadecimal digit is the capital digit of its value. -/
theorem toUpper_eq_digitChar (hc : hexValue? c = some n) :
    c.toUpper = (Nat.digitChar n).toUpper := by
  have hascii : ∀ k < 128, ∀ v, hexValue? (Char.ofNat k) = some v →
      (Char.ofNat k).toUpper = (Nat.digitChar v).toUpper := by decide
  have h := hascii c.toNat (lt_of_isHexDigit (by rw [isHexDigit, hc]; rfl)) n
  rw [Char.ofNat_toNat] at h
  exact h hc

theorem mapM_hexValue? (w : List Char) :
    w.mapM hexValue? =
      if w.all isHexDigit then some (w.map fun c => (hexValue? c).getD 0) else none := by
  induction w with
  | nil => rfl
  | cons c rest ih =>
    rw [List.mapM_cons, ih, List.all_cons, isHexDigit]
    cases hc : hexValue? c with
    | none => rfl
    | some n => cases rest.all isHexDigit <;> simp [hc]

theorem mapM_hexValue?_map {f : Char → Char} (hf : ∀ c, hexValue? (f c) = hexValue? c)
    (w : List Char) : (w.map f).mapM hexValue? = w.mapM hexValue? := by
  induction w with
  | nil => rfl
  | cons c rest ih => rw [List.map_cons, List.mapM_cons, List.mapM_cons, hf, ih]

theorem all_isHexDigit_map {f : Char → Char} (hf : ∀ c, hexValue? (f c) = hexValue? c)
    (w : List Char) : (w.map f).all isHexDigit = w.all isHexDigit := by
  rw [List.all_map]
  exact congrArg w.all (funext fun c => congrArg Option.isSome (hf c))

end Maquette.Text
