/-!
# Hexadecimal digits

Writing a number with a fixed number of hexadecimal digits, and reading single
digits.
-/

namespace Maquette.Text

/-- The number in lower-case hexadecimal digits, filled up with zeros to at
least the given width. -/
def hex (width n : Nat) : List Char :=
  let digits := Nat.toDigits 16 n
  List.replicate (width - digits.length) '0' ++ digits

/-- The value of a hexadecimal digit in either case. -/
def hexValue? (c : Char) : Option Nat :=
  if '0' ≤ c ∧ c ≤ '9' then some (c.toNat - '0'.toNat)
  else if 'a' ≤ c ∧ c ≤ 'f' then some (c.toNat - 'a'.toNat + 10)
  else if 'A' ≤ c ∧ c ≤ 'F' then some (c.toNat - 'A'.toNat + 10)
  else none

theorem hexValue?_lt {c : Char} {n : Nat} (h : hexValue? c = some n) : n < 16 := by
  unfold hexValue? at h
  split at h
  · next hc =>
    have hc' : c.toNat ≤ '9'.toNat := hc.2
    simp only [Option.some.injEq] at h
    have : '9'.toNat = 57 := rfl
    have : '0'.toNat = 48 := rfl
    omega
  · split at h
    · next hc =>
      have hc' : c.toNat ≤ 'f'.toNat := hc.2
      simp only [Option.some.injEq] at h
      have : 'f'.toNat = 102 := rfl
      have : 'a'.toNat = 97 := rfl
      omega
    · split at h
      · next hc =>
        have hc' : c.toNat ≤ 'F'.toNat := hc.2
        simp only [Option.some.injEq] at h
        have : 'F'.toNat = 70 := rfl
        have : 'A'.toNat = 65 := rfl
        omega
      · simp at h

end Maquette.Text
