/-!
# Halves of pairs

A character outside the basic plane is written in JSON as a pair of escapes, and
nothing keeps a text from having one half of a pair without the other. A half is
no character. A row of characters has it as a private-use character at the end of
the code space, where `halfOffset` moves it, so that it counts as one character,
has no case and is no white space.

Those private-use characters are characters of their own as well. So that they are
not taken for halves, a row has them behind a sign, and the sign too.
-/

namespace Maquette.Text

/-- A UTF-16 unit that is the first half of a pair. -/
def isHighHalf (unit : Nat) : Bool :=
  0xd800 ≤ unit && unit < 0xdc00

/-- A UTF-16 unit that is the second half of a pair. -/
def isLowHalf (unit : Nat) : Bool :=
  0xdc00 ≤ unit && unit < 0xe000

/-- A UTF-16 unit that is one half of a pair. -/
def isHalf (unit : Nat) : Bool :=
  isHighHalf unit || isLowHalf unit

/-- The code point that two halves make up. -/
def pairValue (high low : Nat) : Nat :=
  0x10000 + (high - 0xd800) * 0x400 + (low - 0xdc00)

/-- How far above a half the character is that stands for it. -/
def halfOffset : Nat := 0x100000

/-- The character that stands for a half. -/
def halfChar (half : Nat) : Char :=
  Char.ofNat (halfOffset + half)

/-- The half that a character stands for where no sign is in front of it. -/
def half? (c : Char) : Option Nat :=
  if halfOffset ≤ c.toNat ∧ isHalf (c.toNat - halfOffset) then some (c.toNat - halfOffset)
  else none

/-- The sign in front of a character that stands for itself and for no half. -/
def literalSign : Char := Char.ofNat 0x10ffff

/-- A character that needs the sign in order to stand for itself. -/
def isReserved (c : Char) : Bool :=
  (half? c).isSome || c == literalSign

theorem lt_of_isHalf {n : Nat} (h : isHalf n = true) : 0xd800 ≤ n ∧ n < 0xe000 := by
  simp only [isHalf, isHighHalf, isLowHalf, Bool.or_eq_true, Bool.and_eq_true,
    decide_eq_true_eq] at h
  omega

theorem toNat_halfChar {half : Nat} (h : isHalf half = true) :
    (halfChar half).toNat = halfOffset + half := by
  have hrange := lt_of_isHalf h
  have hv : (halfOffset + half).isValidChar := by
    right
    simp only [halfOffset]
    omega
  rw [halfChar, Char.ofNat, dif_pos hv]
  rfl

/-- Every half is found again in the character that stands for it. -/
theorem half?_halfChar {half : Nat} (h : isHalf half = true) : half? (halfChar half) = some half := by
  simp [half?, toNat_halfChar h, h]

/-- A half is so far below the character that stands for it. -/
theorem toNat_of_half? {c : Char} {n : Nat} (h : half? c = some n) :
    isHalf n = true ∧ c.toNat = halfOffset + n := by
  unfold half? at h
  split at h
  · next hc =>
    have hn := Option.some.inj h
    rw [hn] at hc
    exact ⟨hc.2, by omega⟩
  · cases h

/-- No character has the code point of a half. -/
theorem isHalf_toNat (c : Char) : isHalf c.toNat = false := by
  have hvalid : c.toNat.isValidChar := c.valid
  rw [Bool.eq_false_iff]
  intro h
  have hrange := lt_of_isHalf h
  rcases hvalid with hlow | hhigh <;> omega

theorem isReserved_eq_false_of_lt {c : Char} (h : c.toNat < halfOffset) : isReserved c = false := by
  have hsign : c ≠ literalSign := by
    rintro rfl
    exact absurd h (by decide)
  rw [isReserved, half?, if_neg (fun hc => Nat.not_lt.2 hc.1 h), beq_eq_false_iff_ne.2 hsign]
  rfl

theorem half?_eq_none_of_isReserved_eq_false {c : Char} (h : isReserved c = false) :
    half? c = none :=
  Option.isSome_eq_false_iff.1 (Bool.or_eq_false_iff.1 h).1 |> Option.isNone_iff_eq_none.1

theorem ne_literalSign_of_isReserved_eq_false {c : Char} (h : isReserved c = false) :
    c ≠ literalSign :=
  beq_eq_false_iff_ne.1 (Bool.or_eq_false_iff.1 h).2

/-- A character that stands for a half is not the sign. -/
theorem ne_literalSign_of_half? {c : Char} {n : Nat} (h : half? c = some n) : c ≠ literalSign := by
  rintro rfl
  have hnone : half? literalSign = none := by decide
  rw [hnone] at h
  cases h

end Maquette.Text
