import Maquette.Text.CharSet

/-!
# Blank characters

The characters that count as white space: those of the Unicode property, and
the four information separators `U+001C` to `U+001F`. Texts are lists of
characters here, so trimming is `dropWhile` on either end.
-/

namespace Maquette.Text

/-- The characters that count as white space. -/
def blanks : CharSet := ⟨[
    (0x9, 0xd), (0x1c, 0x20), (0x85, 0x85), (0xa0, 0xa0), (0x1680, 0x1680), (0x2000, 0x200a),
    (0x2028, 0x2029), (0x202f, 0x202f), (0x205f, 0x205f), (0x3000, 0x3000)]⟩

/-- The character is white space. -/
def isBlank (c : Char) : Bool :=
  blanks.contains c

/-- One of the four information separators. They are white space, but a number
may not follow them. -/
def isSeparatorControl (c : Char) : Bool :=
  0x1c ≤ c.toNat && c.toNat ≤ 0x1f

theorem isBlank_of_isWhitespace {c : Char} (h : c.isWhitespace = true) : isBlank c = true := by
  simp only [Char.isWhitespace, Bool.or_eq_true, decide_eq_true_eq, or_assoc] at h
  rcases h with rfl | rfl | rfl | rfl <;> decide

/-- The text without the white space in front. -/
def trimLeft (s : List Char) : List Char :=
  s.dropWhile isBlank

/-- The text without the white space at its end. -/
def trimRight (s : List Char) : List Char :=
  (s.reverse.dropWhile isBlank).reverse

/-- The text without the white space at either end. -/
def trim (s : List Char) : List Char :=
  trimRight (trimLeft s)

/-- The pieces of a text between the characters with a property; always one
more than there are such characters. -/
def pieces (p : Char → Bool) : List Char → List (List Char)
  | [] => [[]]
  | c :: rest =>
    if p c then [] :: pieces p rest
    else
      match pieces p rest with
      | [] => [[c]]
      | piece :: more => (c :: piece) :: more

/-- The words of a text: its pieces between white space, empty ones left out. -/
def words (s : List Char) : List (List Char) :=
  (pieces isBlank s).filter (!·.isEmpty)

theorem pieces_ne_nil (p : Char → Bool) (s : List Char) : pieces p s ≠ [] := by
  cases s with
  | nil => simp [pieces]
  | cons c rest =>
    unfold pieces
    split
    · simp
    · split <;> simp

theorem length_pieces (p : Char → Bool) (s : List Char) :
    (pieces p s).length = s.countP p + 1 := by
  induction s with
  | nil => rfl
  | cons c rest ih =>
    unfold pieces
    by_cases hc : p c = true
    · simp [hc, ih]
    · rw [if_neg hc, List.countP_cons_of_neg hc, ← ih]
      split
      · next h => exact absurd h (pieces_ne_nil p rest)
      · next h => simp [h]

end Maquette.Text
