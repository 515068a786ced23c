import Maquette.Proofs.Template.Render

/-!
# Values in markup

A value stands in a markup file with its five special characters written as entities.
What is written so has no character that could end its place in the file, and decoding
the entities gives the value back, also if the value looks like an entity itself.

A file is its template with the slots filled. If what follows each slot begins with a
special character, then the slots can be found in the file again: there is only one way
to fill them that gives the file.
-/

namespace Maquette.Template

/-- The entities of a markup file, with the characters that they stand for. -/
def entities : List (List Char × Char) := [
  ("&amp;".toList, '&'),
  ("&lt;".toList, '<'),
  ("&gt;".toList, '>'),
  ("&quot;".toList, '"'),
  ("&#x27;".toList, '\'')]

/-- The characters that begin or end a tag or the value of an attribute. -/
def markupChars : List Char := ['<', '>', '"', '\'']

/-- The text begins and ends nothing in a markup file, and each ampersand in it begins
an entity. -/
structure IsInert (s : List Char) : Prop where
  notMem : ∀ c ∈ markupChars, c ∉ s
  entity : ∀ before rest, s = before ++ '&' :: rest →
    ∃ entity ∈ entities, entity.1 <+: '&' :: rest

/-- The text with its entities replaced by the characters that they stand for. -/
def decoded : List Char → List Char
  | '&' :: 'a' :: 'm' :: 'p' :: ';' :: rest => '&' :: decoded rest
  | '&' :: 'l' :: 't' :: ';' :: rest => '<' :: decoded rest
  | '&' :: 'g' :: 't' :: ';' :: rest => '>' :: decoded rest
  | '&' :: 'q' :: 'u' :: 'o' :: 't' :: ';' :: rest => '"' :: decoded rest
  | '&' :: '#' :: 'x' :: '2' :: '7' :: ';' :: rest => '\'' :: decoded rest
  | c :: rest => c :: decoded rest
  | [] => []

theorem decoded_cons {c : Char} (h : c ≠ '&') (rest : List Char) :
    decoded (c :: rest) = c :: decoded rest := by
  rw [decoded.eq_def]
  split <;> simp_all

theorem decoded_entity {name : List Char} {c : Char} (h : (name, c) ∈ entities)
    (rest : List Char) : decoded (name ++ rest) = c :: decoded rest := by
  simp only [entities, List.mem_cons, Prod.mk.injEq, List.not_mem_nil, or_false] at h
  rcases h with ⟨rfl, rfl⟩ | ⟨rfl, rfl⟩ | ⟨rfl, rfl⟩ | ⟨rfl, rfl⟩ | ⟨rfl, rfl⟩ <;> rfl

/-- A character is written as an entity, or stands for itself and is not special. -/
theorem escapedChar_cases (c : Char) :
    (escapedChar c, c) ∈ entities ∨ escapedChar c = [c] ∧ c ≠ '&' ∧ c ∉ markupChars := by
  unfold escapedChar
  by_cases hamp : c = '&'
  · subst hamp
    exact .inl (by decide)
  · by_cases hmark : c ∈ markupChars
    · simp only [markupChars, List.mem_cons, List.not_mem_nil, or_false] at hmark
      rcases hmark with rfl | rfl | rfl | rfl <;> exact .inl (by decide)
    · have hself := hmark
      simp only [markupChars, List.mem_cons, List.not_mem_nil, or_false, not_or] at hself
      obtain ⟨hless, hgreater, hquote, happostrophe⟩ := hself
      refine .inr ⟨?_, hamp, hmark⟩
      rw [if_neg hamp, if_neg hless, if_neg hgreater, if_neg hquote, if_neg happostrophe]

theorem isInert_nil : IsInert [] :=
  ⟨fun _ _ => List.not_mem_nil, fun before rest h => by simp at h⟩

theorem IsInert.append {s t : List Char} (hs : IsInert s) (ht : IsInert t) :
    IsInert (s ++ t) where
  notMem c hc hmem := (List.mem_append.1 hmem).elim (hs.notMem c hc) (ht.notMem c hc)
  entity before rest h := by
    rcases List.append_eq_append_iff.1 h with ⟨middle, rfl, hrest⟩ | ⟨middle, rfl, hrest⟩
    · exact ht.entity middle rest hrest
    · cases middle with
      | nil => exact ht.entity [] rest hrest.symm
      | cons c middle =>
        obtain ⟨rfl, rfl⟩ := List.cons.inj hrest
        obtain ⟨entity, hentity, hprefix⟩ := hs.entity before middle rfl
        exact ⟨entity, hentity, hprefix.trans (List.prefix_append _ t)⟩

theorem isInert_entity {entity : List Char × Char} (h : entity ∈ entities) :
    IsInert entity.1 := by
  have hshape : ∀ entity ∈ entities, entity.1.head? = some '&' ∧ '&' ∉ entity.1.tail ∧
      ∀ c ∈ markupChars, c ∉ entity.1 := by
    simp [entities, markupChars]
  obtain ⟨hhead, htail, hmarks⟩ := hshape entity h
  refine ⟨hmarks, fun before rest hsplit => ⟨entity, h, ?_⟩⟩
  cases before with
  | nil => exact hsplit ▸ List.prefix_refl _
  | cons c before =>
    rw [hsplit] at htail
    exact absurd (List.mem_append_right before List.mem_cons_self) htail

theorem isInert_escapedChar (c : Char) : IsInert (escapedChar c) := by
  rcases escapedChar_cases c with hentity | ⟨hself, hamp, hmark⟩
  · exact isInert_entity hentity
  · rw [hself]
    refine ⟨fun d hd hmem => hmark (List.mem_singleton.1 hmem ▸ hd), fun before rest h => ?_⟩
    have hmem : '&' ∈ [c] := h ▸ List.mem_append_right before List.mem_cons_self
    exact absurd (List.mem_singleton.1 hmem).symm hamp

theorem decoded_escapedChar_append (c : Char) (rest : List Char) :
    decoded (escapedChar c ++ rest) = c :: decoded rest := by
  rcases escapedChar_cases c with hentity | ⟨hself, hamp, -⟩
  · exact decoded_entity hentity rest
  · rw [hself, List.singleton_append, decoded_cons hamp]

theorem toList_escaped (text : String) :
    (escaped text).toList = text.toList.flatMap escapedChar :=
  String.toList_ofList

theorem isInert_escaped (text : String) : IsInert (escaped text).toList := by
  rw [toList_escaped]
  induction text.toList with
  | nil => exact isInert_nil
  | cons c s ih => exact (isInert_escapedChar c).append ih

/-- Escaping is undone exactly. -/
theorem decoded_escaped (text : String) : decoded (escaped text).toList = text.toList := by
  rw [toList_escaped]
  induction text.toList with
  | nil => rfl
  | cons c s ih => rw [List.flatMap_cons, decoded_escapedChar_append, ih]

/-- The names of the slots of a template, in order. -/
def slotNames (t : Template) : List String :=
  t.filterMap fun
    | .slot name => some name
    | _ => none

/-- The texts of a template with contents for its slots between them. -/
def woven : Template → List (List Char) → List Char
  | .text content :: rest, contents => content.toList ++ woven rest contents
  | .slot _ :: rest, content :: contents => content ++ woven rest contents
  | _, _ => []

/-- The contents are inert, one for each slot, and make the template into the file. -/
structure Fills (t : Template) (file : String) (contents : List (List Char)) : Prop where
  length_eq : contents.length = t.slotNames.length
  inert : ∀ content ∈ contents, IsInert content
  woven_eq : t.woven contents = file.toList

/-- The file is the markup of the template around the values: they stand in its slots as
inert texts that are decoded to them, and nothing else can stand there. -/
def Carries (t : Template) (file : String) (values : List String) : Prop :=
  ∃ contents, t.Fills file contents ∧ contents.map decoded = values.map String.toList ∧
    ∀ other, t.Fills file other → other = contents

/-- The template has texts and slots only, and the text after each slot begins with a
special character. -/
def isDelimited : Template → Bool
  | [] => true
  | .text _ :: rest => isDelimited rest
  | .slot _ :: rest =>
    match rest with
    | .text content :: _ =>
      (content.toList.head?.any fun c => markupChars.contains c) && isDelimited rest
    | _ => false
  | _ => false

theorem exists_of_isDelimited_slot {name : String} {rest : Template}
    (h : isDelimited (.slot name :: rest) = true) :
    isDelimited rest = true ∧ ∃ mark ∈ markupChars, ∀ contents, ∃ after,
      woven rest contents = mark :: after := by
  cases rest with
  | nil => cases h
  | cons piece rest =>
    cases piece with
    | text content =>
      rw [isDelimited, Bool.and_eq_true] at h
      cases hcontent : content.toList with
      | nil => simp [hcontent] at h
      | cons mark chars =>
        have hmark : mark ∈ markupChars := by simpa [hcontent] using h.1
        exact ⟨h.2, mark, hmark, fun contents => ⟨chars ++ woven rest contents, by
          rw [woven, hcontent, List.cons_append]⟩⟩
    | slot name => cases h
    | member path => cases h
    | each names source body => cases h

/-- Texts in front of a character that neither of them has. -/
theorem append_cons_inj_of_notMem {c : Char} {s s' t t' : List Char} (hs : c ∉ s) (hs' : c ∉ s')
    (h : s ++ c :: t = s' ++ c :: t') : s = s' := by
  have hbefore (s t : List Char) (hs : c ∉ s) : (s ++ c :: t).takeWhile (· != c) = s := by
    rw [List.takeWhile_append_of_pos fun d hd => by simpa using ne_of_mem_of_not_mem hd hs]
    simp
  rw [← hbefore s t hs, h, hbefore s' t' hs']

/-- The contents of the slots are found again. -/
theorem woven_inj {t : Template} (ht : isDelimited t = true) {contents contents' : List (List Char)}
    (hlength : contents.length = t.slotNames.length)
    (hlength' : contents'.length = t.slotNames.length)
    (hinert : ∀ content ∈ contents, IsInert content)
    (hinert' : ∀ content ∈ contents', IsInert content)
    (h : woven t contents = woven t contents') : contents = contents' := by
  induction t generalizing contents contents' with
  | nil => rw [List.length_eq_zero_iff.1 hlength, List.length_eq_zero_iff.1 hlength']
  | cons piece rest ih =>
    cases piece with
    | text content =>
      rw [woven, woven, List.append_cancel_left_eq] at h
      exact ih ht hlength hlength' hinert hinert' h
    | slot name =>
      obtain ⟨content, contents, rfl⟩ := List.exists_cons_of_length_eq_add_one hlength
      obtain ⟨content', contents', rfl⟩ := List.exists_cons_of_length_eq_add_one hlength'
      obtain ⟨hrest, mark, hmark, hafter⟩ := exists_of_isDelimited_slot ht
      rw [woven, woven] at h
      have hcontent : content = content' := by
        obtain ⟨after, hwoven⟩ := hafter contents
        obtain ⟨after', hwoven'⟩ := hafter contents'
        rw [hwoven, hwoven'] at h
        exact append_cons_inj_of_notMem ((hinert _ List.mem_cons_self).notMem mark hmark)
          ((hinert' _ List.mem_cons_self).notMem mark hmark) h
      rw [hcontent, List.append_cancel_left_eq] at h
      rw [hcontent, ih hrest (Nat.succ.inj hlength) (Nat.succ.inj hlength')
        (fun c hc => hinert c (List.mem_cons_of_mem _ hc))
        (fun c hc => hinert' c (List.mem_cons_of_mem _ hc)) h]
    | member path => cases ht
    | each names source body => cases ht

theorem toList_of_render {escape : Bool} {t : Template} (ht : isDelimited t = true)
    {context : Fields} {text : String} (h : render escape t context = .ok text) :
    t.woven (t.slotNames.map fun name => (slotText escape context name).toList) = text.toList := by
  induction t generalizing text with
  | nil =>
    rw [render] at h
    obtain rfl := Except.ok.inj h
    rfl
  | cons piece rest ih =>
    cases piece with
    | text content =>
      obtain ⟨more, hmore, rfl⟩ := exists_of_render_text h
      rw [String.toList_append, ← ih ht hmore]
      rfl
    | slot name =>
      obtain ⟨more, hmore, rfl⟩ := exists_of_render_slot h
      rw [String.toList_append, ← ih (exists_of_isDelimited_slot ht).1 hmore]
      rfl
    | member path => cases ht
    | each names source body => cases ht

/-- A markup file carries the values of its slots. -/
theorem carries_of_render {t : Template} (ht : isDelimited t = true) {context : Fields}
    {file : String} (h : render true t context = .ok file) {values : List String}
    (hvalues : t.slotNames.map (slotText true context) = values.map escaped) :
    t.Carries file values := by
  have hwoven := toList_of_render ht h
  have hcontents : (t.slotNames.map fun name => (slotText true context name).toList) =
      values.map fun value => (escaped value).toList := by
    simpa only [List.map_map, Function.comp_def] using congrArg (List.map String.toList) hvalues
  have hlength : (values.map fun value => (escaped value).toList).length =
      t.slotNames.length := by
    rw [← hcontents, List.length_map]
  have hinert : ∀ content ∈ values.map fun value => (escaped value).toList, IsInert content := by
    intro content hcontent
    obtain ⟨value, -, rfl⟩ := List.mem_map.1 hcontent
    exact isInert_escaped value
  rw [hcontents] at hwoven
  refine ⟨_, ⟨hlength, hinert, hwoven⟩, ?_, fun other hother => ?_⟩
  · simp only [List.map_map, Function.comp_def, decoded_escaped]
  · exact woven_inj ht hother.length_eq hlength hother.inert hinert
      (hother.woven_eq.trans hwoven.symm)

end Maquette.Template
