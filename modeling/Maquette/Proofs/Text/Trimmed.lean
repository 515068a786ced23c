import Maquette.Text.Lower
import Mathlib.Data.List.DropRight

/-!
# White space and case

A text is trimmed if it neither begins nor ends with white space. Lower case keeps the
first and the last character of a text blank or not, whatever else it does to them, so it
takes trimmed texts to trimmed texts and no others. A lower-case form that is equal to
the key of a name is therefore the form of a trimmed text.
-/

namespace Maquette.Text

variable {c d : Char} {s : List Char}

/-- The text has no white space at either end. -/
def IsTrimmed (s : List Char) : Prop :=
  s.head?.any isBlank = false ∧ s.getLast?.any isBlank = false

theorem trimRight_eq_rdropWhile (s : List Char) : trimRight s = s.rdropWhile isBlank := rfl

theorem any_isBlank_head?_trimLeft (s : List Char) :
    (trimLeft s).head?.any isBlank = false := by
  have hhead := List.head?_dropWhile_not isBlank s
  rw [trimLeft]
  cases hs : (s.dropWhile isBlank).head? with
  | none => rfl
  | some c =>
    rw [hs] at hhead
    exact hhead

theorem any_isBlank_head?_of_isPrefix {s t : List Char} (hst : s <+: t)
    (h : t.head?.any isBlank = false) : s.head?.any isBlank = false := by
  obtain ⟨rest, rfl⟩ := hst
  cases s with
  | nil => rfl
  | cons c s => exact h

theorem any_isBlank_getLast?_trimRight (s : List Char) :
    (trimRight s).getLast?.any isBlank = false := by
  rw [trimRight_eq_rdropWhile]
  by_cases hne : s.rdropWhile isBlank = []
  · rw [hne]
    rfl
  · rw [List.getLast?_eq_some_getLast hne, Option.any_some]
    exact Bool.eq_false_iff.2 (List.rdropWhile_last_not isBlank s hne)

theorem isTrimmed_trim (s : List Char) : IsTrimmed (trim s) :=
  ⟨any_isBlank_head?_of_isPrefix (List.rdropWhile_prefix isBlank _)
    (any_isBlank_head?_trimLeft s), any_isBlank_getLast?_trimRight _⟩

theorem IsTrimmed.trim_eq (h : IsTrimmed s) : trim s = s := by
  have hleft : trimLeft s = s := by
    cases s with
    | nil => rfl
    | cons c rest => exact List.dropWhile_cons_of_neg (Bool.eq_false_iff.1 h.1)
  rw [trim, hleft, trimRight_eq_rdropWhile, List.rdropWhile_eq_self_iff]
  intro hne
  have hlast := h.2
  rw [List.getLast?_eq_some_getLast hne, Option.any_some] at hlast
  exact Bool.eq_false_iff.1 hlast

section Around

variable {blank : Char → Bool} {before core : List Char}

theorem dropWhile_append_core (hbefore : before.all blank = true)
    (hcore : ∀ c ∈ core, blank c = false) (hne : core ≠ []) (after : List Char) :
    (before ++ (core ++ after)).dropWhile blank = core ++ after := by
  obtain ⟨c, more, rfl⟩ := List.exists_cons_of_ne_nil hne
  rw [List.dropWhile_append_of_pos (List.all_eq_true.1 hbefore), List.cons_append,
    List.dropWhile_cons_of_neg (by simp [hcore c List.mem_cons_self])]

/-- What stands around a text without blanks is taken off at both ends. -/
theorem dropWhile_around {after : List Char} (hbefore : before.all blank = true)
    (hcore : ∀ c ∈ core, blank c = false) (hne : core ≠ []) (hafter : after.all blank = true) :
    (((before ++ (core ++ after)).dropWhile blank).reverse.dropWhile blank).reverse = core := by
  have hreverse : after.reverse.all blank = true := by rwa [List.all_reverse]
  have hback := dropWhile_append_core hreverse (fun c hc => hcore c (List.mem_reverse.1 hc))
    (List.reverse_ne_nil_iff.2 hne) []
  rw [dropWhile_append_core hbefore hcore hne, List.reverse_append, ← List.append_nil core.reverse,
    hback, List.append_nil, List.reverse_reverse]

end Around

/-- Neither the characters of a run of capital letters nor their lower-case forms are
white space. -/
theorem lowerRuns_disjoint_blanks :
    ∀ run ∈ lowerRuns, ∀ range ∈ blanks.ranges,
      (run.2.1 < range.1 ∨ range.2 < run.1) ∧
        ((run.2.1 : Int) + run.2.2.2 < range.1 ∨ (range.2 : Int) < run.1 + run.2.2.2) := by
  decide +kernel

theorem pos_of_mem_blanks : ∀ range ∈ blanks.ranges, 0 < range.1 := by decide

theorem isBlank_eq_false_iff :
    isBlank c = false ↔ ∀ range ∈ blanks.ranges, c.toNat < range.1 ∨ range.2 < c.toNat := by
  rw [← Bool.not_eq_true, isBlank, CharSet.contains_iff]
  push Not
  refine forall₂_congr fun range _ => ?_
  omega

theorem isBlank_ofNat_eq_false {n : Nat}
    (h : ∀ range ∈ blanks.ranges, n < range.1 ∨ range.2 < n) : isBlank (Char.ofNat n) = false := by
  rw [Char.ofNat]
  by_cases hn : n.isValidChar
  · rw [dif_pos hn]
    exact isBlank_eq_false_iff.2 h
  · rw [dif_neg hn]
    rfl

theorem isBlank_toLower_of_lt (h : c.toNat < 128) : isBlank c.toLower = isBlank c := by
  have hascii : ∀ n < 128, isBlank (Char.ofNat n).toLower = isBlank (Char.ofNat n) := by decide
  have hc := hascii c.toNat h
  rwa [Char.ofNat_toNat] at hc

/-- A character stays where it is, or a run of capital letters that it is in moves it. -/
theorem lowerDistance_cases (c : Char) :
    lowerDistance c = 0 ∨
      ∃ run ∈ lowerRuns, run.1 ≤ c.toNat ∧ c.toNat ≤ run.2.1 ∧ lowerDistance c = run.2.2.2 := by
  unfold lowerDistance
  split
  · next first last step distance hrun =>
    have hwithin := List.find?_some hrun
    simp only [Bool.and_eq_true, decide_eq_true_eq] at hwithin
    obtain ⟨⟨hfirst, hlast⟩, -⟩ := hwithin
    exact .inr ⟨_, List.mem_of_find?_eq_some hrun, hfirst, hlast, rfl⟩
  · exact .inl rfl

theorem isBlank_ofNat_lowerDistance (c : Char) :
    isBlank (Char.ofNat (c.toNat + lowerDistance c).toNat) = isBlank c := by
  rcases lowerDistance_cases c with hdistance | ⟨run, hrun, hfirst, hlast, hdistance⟩
  · rw [hdistance, Int.add_zero, Int.toNat_natCast, Char.ofNat_toNat]
  · have hdisjoint := lowerRuns_disjoint_blanks run hrun
    rw [hdistance, isBlank_ofNat_eq_false, isBlank_eq_false_iff.2]
    · intro range hrange
      have hcapital := (hdisjoint range hrange).1
      omega
    · intro range hrange
      have hpos := pos_of_mem_blanks range hrange
      have hsmall := (hdisjoint range hrange).2
      omega

theorem isBlank_of_mem_lowerChar (h : d ∈ lowerChar c) : isBlank d = isBlank c := by
  unfold lowerChar at h
  split at h
  · next hascii =>
    rw [List.mem_singleton.1 h]
    exact isBlank_toLower_of_lt hascii
  · split at h
    · next hdot =>
      subst hdot
      simp only [List.mem_cons, List.not_mem_nil, or_false] at h
      rcases h with rfl | rfl <;> rfl
    · rw [List.mem_singleton.1 h]
      exact isBlank_ofNat_lowerDistance c

theorem lowerChar_ne_nil (c : Char) : lowerChar c ≠ [] := by
  unfold lowerChar
  split
  · exact List.cons_ne_nil _ _
  · split <;> exact List.cons_ne_nil _ _

/-- What a character becomes in lower case is as blank as the character. -/
theorem exists_lowerAfter_cons (before : List Char) (c : Char) (rest : List Char) :
    ∃ form, form ≠ [] ∧ (∀ d ∈ form, isBlank d = isBlank c) ∧
      lowerAfter before (c :: rest) = form ++ lowerAfter (c :: before) rest := by
  rw [lowerAfter]
  refine ⟨_, ?_, ?_, rfl⟩
  · split
    · exact List.cons_ne_nil _ _
    · exact lowerChar_ne_nil c
  · intro d hd
    split at hd
    · next hsigma =>
      rw [List.mem_singleton.1 hd, hsigma]
      split <;> rfl
    · exact isBlank_of_mem_lowerChar hd

theorem any_isBlank_head?_lowerAfter (before s : List Char) :
    (lowerAfter before s).head?.any isBlank = s.head?.any isBlank := by
  cases s with
  | nil => rfl
  | cons c rest =>
    obtain ⟨form, hne, hblank, hform⟩ := exists_lowerAfter_cons before c rest
    rw [hform, List.head?_append_of_ne_nil _ hne, List.head?_eq_some_head hne, List.head?_cons,
      Option.any_some, Option.any_some]
    exact hblank _ (List.head_mem hne)

theorem any_isBlank_getLast?_lowerAfter (before s : List Char) :
    (lowerAfter before s).getLast?.any isBlank = s.getLast?.any isBlank := by
  induction s generalizing before with
  | nil => rfl
  | cons c rest ih =>
    obtain ⟨form, hne, hblank, hform⟩ := exists_lowerAfter_cons before c rest
    cases rest with
    | nil =>
      rw [hform, lowerAfter, List.append_nil, List.getLast?_eq_some_getLast hne, Option.any_some]
      exact hblank _ (List.getLast_mem hne)
    | cons d rest =>
      have hrest : lowerAfter (c :: before) (d :: rest) ≠ [] := by
        obtain ⟨next, hnext, -, happend⟩ := exists_lowerAfter_cons (c :: before) d rest
        rw [happend]
        exact List.append_ne_nil_of_left_ne_nil hnext _
      rw [hform, List.getLast?_append_of_ne_nil _ hrest, ih, List.getLast?_cons_cons]

theorem isTrimmed_lower_iff : IsTrimmed (lower s) ↔ IsTrimmed s := by
  rw [IsTrimmed, IsTrimmed, lower, any_isBlank_head?_lowerAfter, any_isBlank_getLast?_lowerAfter]

/-- The lower-case form of a text is the key of a name exactly if the text is trimmed and
has the same key. -/
theorem ofList_lower_eq_key_iff {text name : String} :
    String.ofList (lower text.toList) = key name ↔
      trim text.toList = text.toList ∧ key text = key name := by
  constructor
  · intro h
    have hlower : lower text.toList = lower (trim name.toList) := String.ofList_injective h
    have htrim : IsTrimmed text.toList := by
      rw [← isTrimmed_lower_iff, hlower, isTrimmed_lower_iff]
      exact isTrimmed_trim _
    refine ⟨htrim.trim_eq, ?_⟩
    rw [← h, key, htrim.trim_eq]
  · rintro ⟨htrim, hkey⟩
    rw [← hkey, key, htrim]

/-! ## Characters without case -/

/-- A property of the characters that only the ASCII ones can fail is checked on those. -/
theorem forall_char_of_ascii {p : Char → Prop} (hascii : ∀ n < 128, p (Char.ofNat n))
    (h : 128 ≤ c.toNat → p c) : p c := by
  rcases Nat.lt_or_ge c.toNat 128 with hlt | hge
  · have hc := hascii c.toNat hlt
    rwa [Char.ofNat_toNat] at hc
  · exact h hge

theorem toLower_eq_self (hc : 128 ≤ c.toNat) : c.toLower = c := by
  unfold Char.toLower
  rw [dif_neg]
  rintro ⟨-, hle⟩
  exact absurd (UInt32.le_iff_toNat_le.1 hle) (Nat.not_le.2 (Nat.lt_of_lt_of_le (by decide) hc))

theorem toUpper_eq_self (hc : 128 ≤ c.toNat) : c.toUpper = c := by
  unfold Char.toUpper
  rw [dif_neg]
  rintro ⟨-, hle⟩
  exact absurd (UInt32.le_iff_toNat_le.1 hle) (Nat.not_le.2 (Nat.lt_of_lt_of_le (by decide) hc))

/-- White space has no case. -/
theorem toLower_of_isBlank (hc : isBlank c = true) : c.toLower = c :=
  forall_char_of_ascii (p := fun c => isBlank c = true → c.toLower = c) (by decide)
    (fun hge _ => toLower_eq_self hge) hc

theorem toUpper_of_isBlank (hc : isBlank c = true) : c.toUpper = c :=
  forall_char_of_ascii (p := fun c => isBlank c = true → c.toUpper = c) (by decide)
    (fun hge _ => toUpper_eq_self hge) hc

theorem lowerDistance_of_isBlank (hc : isBlank c = true) : lowerDistance c = 0 := by
  refine (lowerDistance_cases c).resolve_right ?_
  rintro ⟨run, hrun, hfirst, hlast, -⟩
  obtain ⟨range, hrange, hlow, hhigh⟩ := (blanks.contains_iff c).1 hc
  have hcapital := (lowerRuns_disjoint_blanks run hrun range hrange).1
  omega

theorem lowerChar_eq_toLower (hc : c.toNat < 128 ∨ isBlank c = true) :
    lowerChar c = [c.toLower] := by
  unfold lowerChar
  by_cases hascii : c.toNat < 128
  · rw [if_pos hascii]
  · have hblank := hc.resolve_left hascii
    have hdot : c ≠ 'İ' := by
      rintro rfl
      exact absurd hblank (by decide)
    rw [if_neg hascii, if_neg hdot, lowerDistance_of_isBlank hblank, Int.add_zero,
      Int.toNat_natCast, Char.ofNat_toNat, toLower_eq_self (Nat.le_of_not_lt hascii)]

theorem lowerAfter_eq_map (before : List Char)
    (h : ∀ c ∈ s, c.toNat < 128 ∨ isBlank c = true) : lowerAfter before s = s.map Char.toLower := by
  induction s generalizing before with
  | nil => rfl
  | cons c rest ih =>
    have hsigma : c ≠ 'Σ' := by
      rintro rfl
      exact absurd (h 'Σ' List.mem_cons_self) (by decide)
    rw [lowerAfter, if_neg hsigma, lowerChar_eq_toLower (h c List.mem_cons_self),
      ih _ fun d hd => h d (List.mem_cons_of_mem c hd)]
    rfl

end Maquette.Text
