import Maquette.Json.Printer
import Maquette.Proofs.Dart.Plain
import Maquette.Proofs.Json.Units

/-!
# The characters of written values

A written value is printable ASCII on lines that end in a line feed, whatever the
texts in it are: what is not printable is an escape, and an escape is a backslash with
a letter or with hexadecimal digits. Numbers and the words for the other values are
letters, digits, points and signs.
-/

namespace Maquette

theorem Dart.toNat_of_isWordChar {c : Char} (h : isWordChar c = true) :
    0x20 ≤ c.toNat ∧ c.toNat ≤ 0x7e := by
  rw [isWordChar, Bool.or_eq_true, List.contains_iff_mem] at h
  rcases h with hdigit | hmark
  · have htoNat : c.val.toNat = c.toNat := rfl
    have hbounds : '0'.val.toNat = 0x30 ∧ '9'.val.toNat = 0x39 := by decide
    simp only [Char.isDigit, Bool.and_eq_true, decide_eq_true_eq, ge_iff_le,
      UInt32.le_iff_toNat_le, htoNat, hbounds] at hdigit
    omega
  · have hmarks : (wordMarks.all fun d => decide (0x20 ≤ d.toNat ∧ d.toNat ≤ 0x7e)) = true := by
      decide
    exact of_decide_eq_true (List.all_eq_true.1 hmarks c hmark)

namespace Text

/-- A printable character of ASCII, or a line feed. -/
def isPlainChar (c : Char) : Bool :=
  decide (0x20 ≤ c.toNat ∧ c.toNat ≤ 0x7e) || c == '\n'

theorem isPlainChar_of_toNat {c : Char} (h : 0x20 ≤ c.toNat ∧ c.toNat ≤ 0x7e) :
    isPlainChar c = true := by
  rw [isPlainChar, decide_eq_true h, Bool.true_or]

theorem all_isPlainChar_of_all {s : List Char} (h : s.all Dart.isWordChar = true) :
    s.all isPlainChar = true := by
  rw [List.all_eq_true] at h ⊢
  intro c hc
  exact isPlainChar_of_toNat (Dart.toNat_of_isWordChar (h c hc))

theorem all_isPlainChar_replicate {c : Char} (h : isPlainChar c = true) (k : Nat) :
    (List.replicate k c).all isPlainChar = true := by
  rw [List.all_eq_true]
  intro d hd
  rw [List.eq_of_mem_replicate hd]
  exact h

theorem all_isPlainChar_toDigits (n : Nat) : (Nat.toDigits 16 n).all isPlainChar = true := by
  have hdigit : ∀ d < 16, isPlainChar (Nat.digitChar d) = true := by decide
  induction n using Nat.strongRecOn with
  | _ n ih =>
    rcases Nat.lt_or_ge n 16 with hlt | hge
    · rw [Nat.toDigits_of_lt_base hlt, List.all_cons, hdigit n hlt]
      rfl
    · rw [Nat.toDigits_of_base_le (by decide) hge, List.all_append, ih (n / 16) (by omega),
        List.all_cons, hdigit (n % 16) (by omega)]
      rfl

theorem all_isPlainChar_hex (width n : Nat) : (hex width n).all isPlainChar = true := by
  unfold hex
  dsimp only
  rw [List.all_append, all_isPlainChar_replicate (by decide), all_isPlainChar_toDigits]
  rfl

end Text

namespace Json

open Text (isPlainChar)

theorem all_isPlainChar_unitEscape (n : Nat) : (unitEscape n).all isPlainChar = true := by
  rw [unitEscape, List.all_cons, List.all_cons, Text.all_isPlainChar_hex]
  decide

theorem all_isPlainChar_charEscape (c : Char) : (charEscape c).all isPlainChar = true := by
  unfold charEscape
  dsimp only
  split
  · exact all_isPlainChar_unitEscape _
  · rw [List.all_append, all_isPlainChar_unitEscape, all_isPlainChar_unitEscape]
    rfl

theorem isPlainChar_of_shortEscape {c letter : Char} (h : shortEscape? c = some letter) :
    isPlainChar letter = true := by
  have hletters : ∀ pair ∈ shortEscapes, isPlainChar pair.2 = true := by decide
  exact hletters (c, letter) (mem_shortEscapes h)

theorem all_isPlainChar_writtenChar (c : Char) : (writtenChar c).all isPlainChar = true := by
  unfold writtenChar
  split
  · next letter hletter =>
    rw [List.all_cons, List.all_cons, isPlainChar_of_shortEscape hletter]
    decide
  · split
    · next hprint =>
      rw [List.all_cons, Text.isPlainChar_of_toNat hprint]
      rfl
    · exact all_isPlainChar_charEscape c

theorem all_isPlainChar_writtenSymbol (s : Text.Symbol) :
    (writtenSymbol s).all isPlainChar = true := by
  cases s with
  | char c => exact all_isPlainChar_writtenChar c
  | half unit _ => exact all_isPlainChar_unitEscape unit

theorem all_isPlainChar_writtenString (text : String) :
    (writtenString text).toList.all isPlainChar = true := by
  have hbody : ((Text.symbols text.toList).flatMap writtenSymbol).all isPlainChar = true := by
    rw [List.all_eq_true]
    intro d hd
    obtain ⟨s, -, hds⟩ := List.mem_flatMap.1 hd
    exact List.all_eq_true.1 (all_isPlainChar_writtenSymbol s) d hds
  rw [writtenString, String.toList_ofList, List.all_append, List.all_cons, hbody]
  decide

theorem all_isPlainChar_writtenNumber (x : Binary64) :
    (writtenNumber x).toList.all isPlainChar = true := by
  cases x with
  | finite s m => exact Text.all_isPlainChar_of_all (Binary64.finite s m).all_isWordChar_text
  | infinite s => cases s <;> decide
  | nan => decide

theorem all_isPlainChar_levelIndent (level : Nat) :
    (levelIndent level).toList.all isPlainChar = true := by
  rw [levelIndent, String.toList_ofList]
  exact Text.all_isPlainChar_replicate (by decide) _

mutual

/-- Every character of a written value is plain. -/
theorem all_isPlainChar_prettyAt :
    ∀ (v : Json) (level : Nat), (prettyAt level v).toList.all isPlainChar = true
  | null, _ => by rw [prettyAt]; decide
  | bool true, _ => by rw [prettyAt]; decide
  | bool false, _ => by rw [prettyAt]; decide
  | integer k, _ => by
    rw [prettyAt]
    exact Text.all_isPlainChar_of_all (all_isWordChar_integerText k)
  | number x, _ => by
    rw [prettyAt]
    exact all_isPlainChar_writtenNumber x
  | string text, _ => by
    rw [prettyAt]
    exact all_isPlainChar_writtenString text
  | array [], _ => by rw [prettyAt]; decide
  | array (item :: items), level => by
    have hitems := all_isPlainChar_prettyItems (item :: items) (level + 1)
    have hindent := all_isPlainChar_levelIndent level
    simp only [prettyAt, String.toList_append, List.all_append, hitems, hindent]
    decide
  | object [], _ => by rw [prettyAt]; decide
  | object (field :: fields), level => by
    have hfields := all_isPlainChar_prettyFields (field :: fields) (level + 1)
    have hindent := all_isPlainChar_levelIndent level
    simp only [prettyAt, String.toList_append, List.all_append, hfields, hindent]
    decide

theorem all_isPlainChar_prettyItems :
    ∀ (items : List Json) (level : Nat), (prettyItems level items).toList.all isPlainChar = true
  | [], _ => by rw [prettyItems]; decide
  | [item], level => by
    have hitem := all_isPlainChar_prettyAt item level
    have hindent := all_isPlainChar_levelIndent level
    simp only [prettyItems, String.toList_append, List.all_append, hitem, hindent]
    decide
  | item :: next :: items, level => by
    have hitem := all_isPlainChar_prettyAt item level
    have hitems := all_isPlainChar_prettyItems (next :: items) level
    have hindent := all_isPlainChar_levelIndent level
    simp only [prettyItems, String.toList_append, List.all_append, hitem, hitems, hindent]
    decide

theorem all_isPlainChar_prettyFields :
    ∀ (fields : List (String × Json)) (level : Nat),
      (prettyFields level fields).toList.all isPlainChar = true
  | [], _ => by rw [prettyFields]; decide
  | [(name, value)], level => by
    have hname := all_isPlainChar_writtenString name
    have hvalue := all_isPlainChar_prettyAt value level
    have hindent := all_isPlainChar_levelIndent level
    simp only [prettyFields, String.toList_append, List.all_append, hname, hvalue, hindent]
    decide
  | (name, value) :: next :: fields, level => by
    have hname := all_isPlainChar_writtenString name
    have hvalue := all_isPlainChar_prettyAt value level
    have hfields := all_isPlainChar_prettyFields (next :: fields) level
    have hindent := all_isPlainChar_levelIndent level
    simp only [prettyFields, String.toList_append, List.all_append, hname, hvalue, hfields, hindent]
    decide

end

end Json

end Maquette
