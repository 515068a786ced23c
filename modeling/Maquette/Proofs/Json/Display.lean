import Maquette.Json.Display
import Maquette.Proofs.Json.Characters
import Maquette.Proofs.Json.RoundTrip

/-!
# Displayed texts without halves

A value that is displayed becomes a text, and the text may be exported. A displayed
text is itself, but everything else is spelled out: numbers in ASCII, and the texts
inside of arrays and objects in quotes, where whatever does not print is an escape.
Neither halves nor the characters that stand for them print. So only a text that is
displayed as it is can have halves, and displaying a portable value gives a portable
text.
-/

namespace Maquette

namespace Text

/-- All of a text lies below the characters that stand for halves, and below the sign. -/
def isBelowHalves (s : List Char) : Bool :=
  s.all fun c => decide (c.toNat < halfOffset)

@[simp] theorem isBelowHalves_nil : isBelowHalves [] = true := rfl

@[simp] theorem isBelowHalves_cons (c : Char) (s : List Char) :
    isBelowHalves (c :: s) = (decide (c.toNat < halfOffset) && isBelowHalves s) :=
  List.all_cons

@[simp] theorem isBelowHalves_append (s t : List Char) :
    isBelowHalves (s ++ t) = (isBelowHalves s && isBelowHalves t) :=
  List.all_append

theorem isBelowHalves_toList_append {s t : String} (hs : isBelowHalves s.toList = true)
    (ht : isBelowHalves t.toList = true) : isBelowHalves (s ++ t).toList = true := by
  rw [String.toList_append, isBelowHalves_append, hs, ht, Bool.and_true]

theorem not_isReserved_of_isBelowHalves {s : List Char} (h : isBelowHalves s = true) :
    ∀ c ∈ s, isReserved c = false := by
  intro c hc
  exact isReserved_eq_false_of_lt (of_decide_eq_true (List.all_eq_true.1 h c hc))

theorem isPortable_of_isBelowHalves {s : List Char} (h : isBelowHalves s = true) :
    isPortable s = true :=
  isPortable_of_all_not_isReserved (not_isReserved_of_isBelowHalves h)

theorem isBelowHalves_flatMap {α : Type} {f : α → List Char}
    (h : ∀ a, isBelowHalves (f a) = true) (row : List α) :
    isBelowHalves (row.flatMap f) = true := by
  induction row with
  | nil => rfl
  | cons a row ih => rw [List.flatMap_cons, isBelowHalves_append, h a, ih, Bool.and_true]

theorem lt_of_isPrintable {c : Char} (h : isPrintable c = true) : c.toNat < halfOffset := by
  rcases Nat.lt_or_ge c.toNat halfOffset with hlt | hge
  · exact hlt
  · unfold halfOffset at hge
    have hlimit : c.toNat ≤ 0x10ffff := by
      have hvalid : c.toNat.isValidChar := c.valid
      rcases hvalid with hlow | hhigh <;> omega
    have hcontains : unprintable.contains c = true := by
      rw [CharSet.contains_iff]
      exact ⟨(0xe01f0, 0x10ffff), by decide +kernel, by dsimp only; omega, hlimit⟩
    rw [isPrintable, if_neg (by omega), hcontains] at h
    cases h

theorem isBelowHalves_of_plain {s : List Char} (h : s.all isPlainChar = true) :
    isBelowHalves s = true := by
  rw [isBelowHalves, List.all_eq_true]
  intro c hc
  have hplain := List.all_eq_true.1 h c hc
  rw [isPlainChar, Bool.or_eq_true, decide_eq_true_eq, beq_iff_eq] at hplain
  rw [decide_eq_true_eq]
  unfold halfOffset
  rcases hplain with hrange | rfl
  · omega
  · decide

theorem isBelowHalves_of_all {s : List Char} (h : s.all Dart.isWordChar = true) :
    isBelowHalves s = true :=
  isBelowHalves_of_plain (all_isPlainChar_of_all h)

theorem isBelowHalves_hex (width n : Nat) : isBelowHalves (hex width n) = true :=
  isBelowHalves_of_plain (all_isPlainChar_hex width n)

theorem isBelowHalves_codePointEscape (n : Nat) : isBelowHalves (codePointEscape n) = true := by
  unfold codePointEscape
  split
  · simpa [isBelowHalves_hex] using by decide
  split
  · simpa [isBelowHalves_hex] using by decide
  · simpa [isBelowHalves_hex] using by decide

/-- A character between quotation marks is printable or an escape. -/
theorem isBelowHalves_quotedChar (mark c : Char) (hmark : mark.toNat < halfOffset) :
    isBelowHalves (quotedChar mark c) = true := by
  unfold quotedChar
  split
  · next hc =>
    have hlt : c.toNat < halfOffset := by
      rcases hc with rfl | rfl
      · exact hmark
      · decide
    simpa using ⟨by decide, hlt⟩
  split
  · decide
  split
  · decide
  split
  · decide
  split
  · next hprint => simpa using lt_of_isPrintable hprint
  · exact isBelowHalves_codePointEscape _

theorem isBelowHalves_quotedSymbol (mark : Char) (hmark : mark.toNat < halfOffset) (s : Symbol) :
    isBelowHalves (quotedSymbol mark s) = true := by
  cases s with
  | char c => exact isBelowHalves_quotedChar mark c hmark
  | half unit _ => exact isBelowHalves_codePointEscape unit

theorem isBelowHalves_quotedText (s : String) : isBelowHalves (quotedText s).toList = true := by
  have hmark : (quoteMark s.toList).toNat < halfOffset := by
    unfold quoteMark
    split <;> decide
  rw [quotedText, String.toList_ofList, quoted, List.cons_append, isBelowHalves_cons,
    isBelowHalves_append, isBelowHalves_flatMap (isBelowHalves_quotedSymbol _ hmark)]
  simp [hmark]

end Text

namespace Json

open Text (isBelowHalves)

mutual

theorem isBelowHalves_shown : ∀ v : Json, isBelowHalves v.shown.toList = true
  | null => by decide
  | bool true => by decide
  | bool false => by decide
  | integer k => by
    rw [shown]
    exact Text.isBelowHalves_of_all (all_isWordChar_integerText k)
  | number x => by
    rw [shown]
    exact Text.isBelowHalves_of_all x.all_isWordChar_text
  | string text => by
    rw [shown]
    exact Text.isBelowHalves_quotedText text
  | array items => by
    have hitems := isBelowHalves_shownItems items
    simpa [shown, hitems] using by decide
  | object fields => by
    have hfields := isBelowHalves_shownFields fields
    simpa [shown, hfields] using by decide

theorem isBelowHalves_shownItems : ∀ items : List Json, isBelowHalves (shownItems items).toList = true
  | [] => rfl
  | [item] => by
    rw [shownItems]
    exact isBelowHalves_shown item
  | item :: next :: rest => by
    have hitem := isBelowHalves_shown item
    have hrest := isBelowHalves_shownItems (next :: rest)
    simpa [shownItems, hitem, hrest] using by decide

theorem isBelowHalves_shownFields : ∀ fields : List (String × Json),
    isBelowHalves (shownFields fields).toList = true
  | [] => rfl
  | [(name, value)] => by
    have hname := Text.isBelowHalves_quotedText name
    have hvalue := isBelowHalves_shown value
    simpa [shownFields, hname, hvalue] using by decide
  | (name, value) :: next :: rest => by
    have hname := Text.isBelowHalves_quotedText name
    have hvalue := isBelowHalves_shown value
    have hrest := isBelowHalves_shownFields (next :: rest)
    simpa [shownFields, hname, hvalue, hrest] using by decide

end

/-- The displayed text of a portable value is portable. -/
theorem isPortable_display {v : Json} (h : v.isPortable = true) :
    Text.isPortable v.display.toList = true := by
  cases v with
  | string text => exact h
  | null => decide
  | bool value => cases value <;> decide
  | integer k => exact Text.isPortable_of_isBelowHalves (isBelowHalves_shown _)
  | number x => exact Text.isPortable_of_isBelowHalves (isBelowHalves_shown _)
  | array items => exact Text.isPortable_of_isBelowHalves (isBelowHalves_shown _)
  | object fields => exact Text.isPortable_of_isBelowHalves (isBelowHalves_shown _)

end Json

end Maquette
