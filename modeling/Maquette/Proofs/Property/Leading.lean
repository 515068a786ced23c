import Maquette.Proofs.Number.Decimal
import Maquette.Proofs.Number.Leading
import Maquette.Proofs.Number.Overflow
import Maquette.Property

/-!
# What a text means as a number

Where a number is wanted, a text means the longest number that it begins with, as the
double that this number is rounded to.
-/

namespace Maquette

open Text

namespace Json

open Number

theorem number?_integer {n : Int} (hn : n.natAbs < Binary64.integerLimit) :
    (integer n).number? = .ok (some (Binary64.ofInt n)) := by
  rw [number?, Binary64.ofIntChecked, if_pos ((Binary64.isFinite_ofInt_iff n).2 hn)]
  rfl

/-- A text that begins with neither white space nor a number means none. -/
theorem leadingNumber?_of_bracket {c : Char} (hc : c = '[' ∨ c = '\x7b') (rest : List Char) :
    leadingNumber? (c :: rest) = none := by
  have hscan : scanNumber ((c :: rest).dropWhile isBlank) = none := by
    rcases hc with rfl | rfl
    · rfl
    · rfl
  rw [leadingNumber?, hscan]

theorem toList_display_array (items : List Json) :
    ∃ rest, (array items).display.toList = '[' :: rest := by
  simp [display, shown]

theorem toList_display_object (fields : Fields) :
    ∃ rest, (object fields).display.toList = '\x7b' :: rest := by
  simp [display, shown]

theorem number?_string_integerText {n : Int} {rest : String}
    (hn : n.natAbs < Binary64.integerLimit) (hrest : endsNumber rest.toList = true) :
    (string (integerText n ++ rest)).number? = .ok (some (Binary64.ofInt n)) := by
  have hnumber := isNumber_integerText n
  have hspaced := IsSpacedNumber.spaced List.all_nil hnumber
  obtain ⟨d, after, hscan, -, hexact⟩ := scanNumber_of_isSpacedNumber hspaced rest.toList
  obtain ⟨rfl, rfl⟩ := hexact hrest
  rw [List.nil_append] at hscan
  have hblank : (((integerText n).toList ++ rest.toList).takeWhile isBlank) = [] := by
    obtain ⟨c, more, hcons⟩ := List.exists_cons_of_ne_nil hnumber.ne_nil
    have hc := hnumber.isNumberChar_of_mem (c := c) (by simp [hcons])
    rw [hcons, List.cons_append, List.takeWhile_cons_of_neg (by simp [isBlank_of_isNumberChar hc])]
  rw [number?, String.toList_append, leadingNumber?_of_scanNumber (by rw [hblank]; rfl) hscan,
    toBinary64_ofInt, if_pos ((Binary64.isFinite_ofInt_iff n).2 hn)]

theorem leadingNumber?_eq_none_iff {s : List Char} (hs : s.any isSeparatorControl = false) :
    leadingNumber? s = none ↔
      (∀ p d, p <+: s → ¬IsSpacedNumber p d) ∨
        ∃ p d, IsLeading s p d ∧ d.ReadAs (.infinite d.negative) := by
  by_cases hleading : ∃ p d, IsLeading s p d
  · obtain ⟨p, d, hp⟩ := hleading
    rw [leadingNumber?_of_isLeading hs hp]
    constructor
    · intro hnone
      refine .inr ⟨p, d, hp, d.readAs_infinite_iff.2 ?_⟩
      simpa using hnone
    · rintro (hno | ⟨q, e, hq, hinfinite⟩)
      · exact absurd hp.isNumber (hno p d hp.begins)
      · obtain ⟨rfl, rfl⟩ := hp.unique hq
        rw [d.readAs_infinite_iff.1 hinfinite]
        rfl
  · push Not at hleading
    refine iff_of_true (leadingNumber?_eq_none hleading) (.inl fun p d hp hnumber => ?_)
    obtain ⟨q, e, hq⟩ := exists_isLeading_of_isSpacedNumber hnumber hp
    exact hleading q e hq

/-- A text means the longest number that it begins with, after white space: the double that
this number is rounded to. It means none if it does not begin with a number, or if that
double is an infinity. Brackets are no numbers, and an integer in front of a unit means
what it means alone. -/
theorem number?_eq_leading :
    (∀ text : String, text.toList.any isSeparatorControl = false →
      (∀ p d, p <+: text.toList → IsSpacedNumber p d →
        (∃ q e, IsLeading text.toList q e) ∧
          ∃ x, d.ReadAs x ∧ wholeNumber? p = some x ∧
            (IsLeading text.toList p d →
              (string text).number? = .ok (if x.isFinite then some x else none))) ∧
      ((string text).number? = .ok none ↔
        (∀ p d, p <+: text.toList → ¬IsSpacedNumber p d) ∨
          ∃ p d, IsLeading text.toList p d ∧ d.ReadAs (.infinite d.negative))) ∧
    (∀ items, (array items).number? = .ok none ∧
      leadingNumber? (array items).display.toList = none) ∧
    (∀ fields, (object fields).number? = .ok none ∧
      leadingNumber? (object fields).display.toList = none) ∧
    ∀ (n : Int) (rest : String), n.natAbs < Binary64.integerLimit → endsNumber rest.toList = true →
      (string (integerText n ++ rest)).number? = (integer n).number? ∧
        (integer n).number? = .ok (some (Binary64.ofInt n)) := by
  refine ⟨fun text htext => ⟨fun p d hp hnumber => ?_, ?_⟩, fun items => ⟨rfl, ?_⟩,
    fun fields => ⟨rfl, ?_⟩, fun n rest hn hrest => ⟨?_, number?_integer hn⟩⟩
  · have hplain : p.any isSeparatorControl = false := by
      rw [List.any_eq_false] at htext ⊢
      exact fun c hc => htext c (hp.subset hc)
    refine ⟨exists_isLeading_of_isSpacedNumber hnumber hp, d.toBinary64, d.readAs_toBinary64,
      wholeNumber?_of_isSpacedNumber hplain hnumber, fun hleading => ?_⟩
    rw [number?, leadingNumber?_of_isLeading htext hleading]
  · rw [number?, Except.ok.injEq, leadingNumber?_eq_none_iff htext]
  · obtain ⟨rest, hrest⟩ := toList_display_array items
    rw [hrest, leadingNumber?_of_bracket (.inl rfl)]
  · obtain ⟨rest, hrest⟩ := toList_display_object fields
    rw [hrest, leadingNumber?_of_bracket (.inr rfl)]
  · rw [number?_string_integerText hn hrest, number?_integer hn]

theorem number?_eq_leading_spaced :
    (∃ x, (⟨true, 25, 0⟩ : Decimal).ReadAs x ∧ wholeNumber? " -2.5e+1".toList = some x ∧
      (string " -2.5e+1em").number? = .ok (if x.isFinite then some x else none)) ∧
    (string (integerText (-7) ++ "px")).number? = (integer (-7)).number? := by
  have hnumber : IsNumber "-2.5e+1".toList ⟨true, 25, 0⟩ :=
    .parts .minus (.pointed (w := ['2']) (f := ['5']) ⟨by decide, by decide⟩ (by decide))
      (.written (.inl rfl) .plus ⟨by decide, by decide⟩)
  have hspaced : IsSpacedNumber " -2.5e+1".toList ⟨true, 25, 0⟩ :=
    .spaced (show [' '].all isBlank = true by decide) hnumber
  have hbegins : " -2.5e+1".toList <+: " -2.5e+1em".toList := ⟨"em".toList, by decide⟩
  obtain ⟨p, hp, hrest⟩ : ∃ p, IsLeading " -2.5e+1em".toList p ⟨true, 25, 0⟩ ∧
      " -2.5e+1em".toList = p ++ "em".toList := exists_isLeading (by decide)
  have hleading : p = " -2.5e+1".toList := by
    have h := congrArg (List.dropLast ∘ List.dropLast) hrest
    simpa using h.symm
  rw [hleading] at hp
  have hlimit : (-7 : Int).natAbs < Binary64.integerLimit :=
    (Binary64.isFinite_ofInt_iff (-7)).1 (by decide +kernel)
  obtain ⟨-, x, hread, hwhole, hvalue⟩ :=
    (number?_eq_leading.1 " -2.5e+1em" (by decide)).1 _ _ hbegins hspaced
  exact ⟨⟨x, hread, hwhole, hvalue hp⟩,
    (number?_eq_leading.2.2.2 (-7) "px" hlimit (by decide)).1⟩

end Json

end Maquette
