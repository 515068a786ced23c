import Maquette.Proofs.Emission.Snippet
import Maquette.Proofs.Widget.Given
import Maquette.Proofs.Widget.Read

/-!
# Omitted properties

A property that is set to what counts as not given leaves the code of its component as
if the property had been removed, so that its default applies. The padding of a button
is the exception: an empty text there, or one that means no number, is no padding at
all, while without the property the button has its default padding.
-/

namespace Maquette

namespace Component

/-- The component with a property set. -/
def withProp (c : Component) (key : String) (value : Json) : Component :=
  { c with props := c.props.set key value }

/-- The component without a property. -/
def withoutProp (c : Component) (key : String) : Component :=
  { c with props := c.props.without key }

/-- The property is an amount of padding that a button goes by, although it means no
number. -/
def ZeroesPadding (c : Component) (key : String) (value : Json) : Prop :=
  c.typeKey = "button" ∧ value.isNull = false ∧
    (key = "padding" ∨
      (key ∈ ["paddingHorizontal", "paddingVertical"] ∧ (c.props.get "padding").isNull = true))

variable {c : Component} {key : String} {value : Json}

theorem number?_of_isOmitted (h : IsOmitted key value) : value.number? = .ok none := by
  rcases h with hempty | ⟨-, hnumber⟩
  · exact Json.number?_of_not_isPresent hempty
  · exact hnumber

theorem firstPresent?_of_isOmitted (h : IsOmitted key value) (hkey : key ∉ numberKeys) :
    Json.firstPresent? [value] = none := by
  rcases h with hempty | ⟨hmem, -⟩
  · exact Json.firstPresent?_of_not_isPresent hempty
  · exact absurd hmem hkey

/-- An omitted property is given no more than a removed one, wherever it is no amount of
padding that a button goes by. -/
theorem sameGiven_of_isOmitted (h : IsOmitted key value)
    (hpadding : c.typeKey = "button" →
      Button.paddingOf (c.props.set key value) = Button.paddingOf (c.props.without key)) :
    (c.withProp key value).SameGiven (c.withoutProp key) where
  type_eq := rfl
  fraction?_eq _ := rfl
  given_eq other hother := by
    change Json.firstPresent? [(c.props.set key value).get other] =
      Json.firstPresent? [(c.props.without key).get other]
    by_cases hkey : other = key
    · subst hkey
      rw [Fields.get_set_self, Fields.get_without_self, firstPresent?_of_isOmitted h hother]
      rfl
    · rw [Fields.get_set_eq_get_without hkey]
  number_eq other _ _ := by
    change ((c.props.set key value).get other).number? = ((c.props.without key).get other).number?
    by_cases hkey : other = key
    · subst hkey
      rw [Fields.get_set_self, Fields.get_without_self, number?_of_isOmitted h]
      rfl
    · rw [Fields.get_set_eq_get_without hkey]
  padding_eq := hpadding

end Component

theorem Json.number?_zero : number? (.integer 0) = .ok (some 0) :=
  eq_ok_of_toOption (by decide +kernel)

namespace Insets

theorem code_all_ne_code_symmetric (amount horizontal vertical : Binary64) :
    (all amount).code ≠ (symmetric horizontal vertical).code := by
  intro h
  have hall : "EdgeInsets.all(".toList = "EdgeInsets.".toList ++ 'a' :: "ll(".toList := by decide
  have hsymmetric : "EdgeInsets.symmetric(horizontal: ".toList =
      "EdgeInsets.".toList ++ 's' :: "ymmetric(horizontal: ".toList := by decide
  have hlists := congrArg String.toList h
  unfold code at hlists
  simp only [String.toList_append, hall, hsymmetric, List.append_assoc, List.cons_append] at hlists
  obtain ⟨hletter, -⟩ := List.cons.inj (List.append_cancel_left hlists)
  exact absurd hletter (by decide)

/-- Insets on the same amount on one side differ as texts if they do on the other. -/
theorem code_symmetric_inj {horizontal horizontal' vertical vertical' : Binary64}
    (h : (symmetric horizontal vertical).code = (symmetric horizontal' vertical').code) :
    (vertical = vertical' → horizontal.literal = horizontal'.literal) ∧
      (horizontal = horizontal' → vertical.literal = vertical'.literal) := by
  have hlists := congrArg String.toList h
  unfold code at hlists
  simp only [String.toList_append, List.append_assoc] at hlists
  have hsides := List.append_cancel_left hlists
  constructor
  · rintro rfl
    exact String.toList_inj.1 (List.append_cancel_right hsides)
  · rintro rfl
    have hvertical := List.append_cancel_left (List.append_cancel_left hsides)
    exact String.toList_inj.1 (List.append_cancel_right hvertical)

end Insets

namespace Button

variable {props props' : Fields} {value : Json}

theorem paddingOf_of_not_isNull (h : (props.get "padding").isNull = false) :
    paddingOf props = (amount (props.get "padding") 0).map Insets.all := by
  rw [paddingOf, if_neg (by simp [h])]
  cases amount (props.get "padding") 0 <;> rfl

theorem paddingOf_of_isNull (h : (props.get "padding").isNull = true) :
    paddingOf props = (do
      let horizontal ← amount (props.get "paddingHorizontal") 16
      let vertical ← amount (props.get "paddingVertical") 12
      return .symmetric horizontal vertical) := by
  rw [paddingOf, if_pos h]

/-- The padding of a button only depends on its amounts, and on whether one is given for
all sides. -/
theorem paddingOf_congr
    (hnull : (props.get "padding").isNull = (props'.get "padding").isNull)
    (hamount : ∀ key ∈ Component.paddingKeys, amount (props.get key) = amount (props'.get key)) :
    paddingOf props = paddingOf props' := by
  simp (disch := decide) only [paddingOf, hnull, hamount]

theorem amount_null (default : Binary64) : amount .null default = .ok default := rfl

/-- An amount that means no number is zero. -/
theorem amount_of_number?_eq_none (h : value.number? = .ok none) (hnull : value.isNull = false)
    (default : Binary64) : amount value default = .ok (Binary64.max 0 0) := by
  rw [amount, if_neg (by simp [hnull]), Json.numberAtLeast, Json.numberOr, h]
  rfl

theorem amount_zero (default : Binary64) : amount (.integer 0) default = .ok (Binary64.max 0 0) := by
  rw [amount, if_neg (by decide), Json.numberAtLeast, Json.numberOr, Json.number?_zero]
  rfl

/-- A button that goes by no amount of padding for this property has the same padding
without it. -/
theorem paddingOf_set_eq_paddingOf_without {c : Component} {key : String}
    (h : ¬c.ZeroesPadding key value) (htype : c.typeKey = "button") :
    paddingOf (c.props.set key value) = paddingOf (c.props.without key) := by
  have hother {name : String} (hname : name ≠ key) :
      (c.props.set key value).get name = (c.props.without key).get name :=
    Fields.get_set_eq_get_without hname c.props value
  by_cases hnull : value.isNull = true
  · have hget (name : String) : (c.props.set key value).get name = (c.props.without key).get name := by
      cases value with
      | null => rw [Fields.get_set, Fields.get_without]
      | _ => cases hnull
    exact paddingOf_congr (by rw [hget]) fun name _ => by rw [hget]
  · rw [Bool.not_eq_true] at hnull
    have hpadding : "padding" ≠ key := fun hkey => h ⟨htype, hnull, .inl hkey.symm⟩
    by_cases hpair : key ∈ ["paddingHorizontal", "paddingVertical"]
    · have hgiven : (c.props.get "padding").isNull = false := by
        rw [Bool.eq_false_iff]
        exact fun hmissing => h ⟨htype, hnull, .inr ⟨hpair, hmissing⟩⟩
      have hset : ((c.props.set key value).get "padding").isNull = false := by
        rw [Fields.get_set, if_neg hpadding, hgiven]
      rw [paddingOf_of_not_isNull hset, paddingOf_of_not_isNull (hother hpadding ▸ hset),
        hother hpadding]
    · refine paddingOf_congr (by rw [hother hpadding]) fun name hname => ?_
      have hne : name ≠ key := by
        rintro rfl
        rcases List.mem_cons.1 hname with rfl | hmem
        · exact hpadding rfl
        · exact hpair hmem
      rw [hother hne]

/-- A button that goes by an amount that means no number goes by zero. -/
theorem paddingOf_set_eq_paddingOf_zero {key : String} (props : Fields)
    (h : value.number? = .ok none) (hnull : value.isNull = false) :
    paddingOf (props.set key value) = paddingOf (props.set key (.integer 0)) := by
  refine paddingOf_congr ?_ fun name _ => ?_
  · rw [Fields.get_set, Fields.get_set]
    split
    · exact hnull
    · rfl
  · rw [Fields.get_set, Fields.get_set]
    split
    · funext default
      rw [amount_of_number?_eq_none h hnull, amount_zero]
    · rfl

theorem exists_all_of_paddingOf {insets : Insets} (h : paddingOf props = .ok insets)
    (hgiven : (props.get "padding").isNull = false) : ∃ sides, insets = .all sides := by
  rw [paddingOf_of_not_isNull hgiven] at h
  obtain ⟨sides, -, rfl⟩ := exists_of_map_eq_ok h
  exact ⟨sides, rfl⟩

theorem exists_symmetric_of_paddingOf {insets : Insets} (h : paddingOf props = .ok insets)
    (hmissing : (props.get "padding").isNull = true) :
    ∃ horizontal vertical, insets = .symmetric horizontal vertical ∧
      amount (props.get "paddingHorizontal") 16 = .ok horizontal ∧
      amount (props.get "paddingVertical") 12 = .ok vertical := by
  rw [paddingOf_of_isNull hmissing] at h
  obtain ⟨horizontal, hhorizontal, h⟩ := exists_of_bind_eq_ok h
  obtain ⟨vertical, hvertical, h⟩ := exists_of_bind_eq_ok h
  exact ⟨horizontal, vertical, (Except.ok.inj h).symm, hhorizontal, hvertical⟩

/-- A button that goes by an amount that means no number is not padded as it is without
the amount. -/
theorem code_paddingOf_ne {c : Component} {key : String} {insets default : Insets}
    (h : value.number? = .ok none) (hzero : c.ZeroesPadding key value)
    (hset : paddingOf (c.props.set key value) = .ok insets)
    (hwithout : paddingOf (c.props.without key) = .ok default) : insets.code ≠ default.code := by
  obtain ⟨-, hnull, rfl | ⟨hpair, hmissing⟩⟩ := hzero
  · obtain ⟨sides, rfl⟩ := exists_all_of_paddingOf hset (by rw [Fields.get_set_self, hnull])
    obtain ⟨horizontal, vertical, rfl, -, -⟩ :=
      exists_symmetric_of_paddingOf hwithout (by rw [Fields.get_without_self]; rfl)
    exact Insets.code_all_ne_code_symmetric sides horizontal vertical
  · have hpadding : "padding" ≠ key := by
      rintro rfl
      exact absurd hpair (by decide)
    obtain ⟨horizontal, vertical, rfl, hhorizontal, hvertical⟩ :=
      exists_symmetric_of_paddingOf hset (by rw [Fields.get_set, if_neg hpadding, hmissing])
    obtain ⟨horizontal', vertical', rfl, hhorizontal', hvertical'⟩ :=
      exists_symmetric_of_paddingOf hwithout (by rw [Fields.get_without, if_neg hpadding, hmissing])
    intro hcode
    simp only [List.mem_cons, List.not_mem_nil, or_false] at hpair
    rcases hpair with rfl | rfl
    · rw [Fields.get_set_self, amount_of_number?_eq_none h hnull] at hhorizontal
      rw [Fields.get_without_self, amount_null] at hhorizontal'
      rw [Fields.get_set_eq_get_without (by decide), hvertical'] at hvertical
      have hliteral := (Insets.code_symmetric_inj hcode).1 (Except.ok.inj hvertical).symm
      rw [← Except.ok.inj hhorizontal, ← Except.ok.inj hhorizontal'] at hliteral
      exact absurd hliteral (by decide +kernel)
    · rw [Fields.get_set_self, amount_of_number?_eq_none h hnull] at hvertical
      rw [Fields.get_without_self, amount_null] at hvertical'
      rw [Fields.get_set_eq_get_without (by decide), hhorizontal'] at hhorizontal
      have hliteral := (Insets.code_symmetric_inj hcode).2 (Except.ok.inj hhorizontal).symm
      rw [← Except.ok.inj hvertical, ← Except.ok.inj hvertical'] at hliteral
      exact absurd hliteral (by decide +kernel)

end Button

namespace Component

variable {c : Component} {key : String} {value : Json}

/-- An amount that means no number is given no more than zero, where a button goes by it. -/
theorem sameGiven_zero (h : value.number? = .ok none) (hzero : c.ZeroesPadding key value) :
    (c.withProp key value).SameGiven (c.withProp key (.integer 0)) := by
  obtain ⟨htype, hnull, hkey⟩ := hzero
  have hmem : key ∈ paddingKeys := by
    rcases hkey with rfl | ⟨hpair, -⟩
    · decide
    · exact List.mem_cons_of_mem _ hpair
  have hget {other : String} (hother : other ∉ paddingKeys) :
      (c.props.set key value).get other = (c.props.set key (.integer 0)).get other := by
    have hne : other ≠ key := fun heq => hother (heq ▸ hmem)
    rw [Fields.get_set, Fields.get_set, if_neg hne, if_neg hne]
  constructor
  · rfl
  · exact fun _ => rfl
  · intro other hother
    have hread : ∀ name ∈ paddingKeys, name ∈ numberKeys := by decide
    exact congrArg (fun v => Json.firstPresent? [v]) (hget fun hpadding => hother (hread _ hpadding))
  · intro other _ hother
    exact congrArg Json.number? (hget fun hpadding => hother hpadding htype)
  · intro _
    exact Button.paddingOf_set_eq_paddingOf_zero c.props h hnull

end Component

namespace Emission

/-- The code of a button sets one padding, that of its properties. -/
theorem exists_settings_padding {c : Component} (htype : c.typeKey = "button") {level : Int}
    {snippet : List Char} (h : start.widget c level = .ok (some snippet)) :
    ∃ insets glyphs, Button.paddingOf c.props = .ok insets ∧ Dart.lex snippet = some glyphs ∧
      Dart.settings "padding" glyphs = [insets.code] := by
  obtain ⟨w, glyphs, hw, hglyphs, hsettings⟩ := exists_settings_eq h
  unfold Widget.ofComponent at hw
  rw [htype] at hw
  obtain ⟨b, hb, rfl⟩ := exists_of_map_eq_ok hw
  refine ⟨b.padding, glyphs, (Button.readFrom_of_ofComponent hb).padding, hglyphs, ?_⟩
  rw [hsettings "padding" (by decide), Widget.settings_padding_button]

/-- A button with an amount of padding that means no number is not written as it is
without the amount. -/
theorem widget_withProp_ne {c : Component} {key : String} {value : Json}
    (h : value.number? = .ok none) (hzero : c.ZeroesPadding key value) {level : Int}
    {snippet : List Char} (hwithout : start.widget (c.withoutProp key) level = .ok (some snippet)) :
    start.widget (c.withProp key value) level ≠ .ok (some snippet) := by
  intro hset
  obtain ⟨default, glyphs, hdefault, hglyphs, hcode⟩ :=
    exists_settings_padding (c := c.withoutProp key) hzero.1 hwithout
  obtain ⟨insets, glyphs', hinsets, hglyphs', hcode'⟩ :=
    exists_settings_padding (c := c.withProp key value) hzero.1 hset
  obtain rfl := Option.some.inj (hglyphs.symm.trans hglyphs')
  have hsame := List.cons.inj (hcode'.symm.trans hcode)
  exact Button.code_paddingOf_ne h hzero hinsets hdefault hsame.1

/-- Setting a property to a value that counts as not given gives the code without the
property, or the same failure, unless a button goes by the property as an amount of
padding: then it gives the code for an amount of zero, which is never the code without
the property. -/
theorem widget_withProp_of_isOmitted (c : Component) {key : String} {value : Json}
    (h : Component.IsOmitted key value) (level : Int) :
    (¬c.ZeroesPadding key value →
      start.widget (c.withProp key value) level = start.widget (c.withoutProp key) level) ∧
    (c.ZeroesPadding key value →
      start.widget (c.withProp key value) level =
        start.widget (c.withProp key (.integer 0)) level ∧
      ∀ snippet, start.widget (c.withoutProp key) level = .ok (some snippet) →
        start.widget (c.withProp key value) level ≠ .ok (some snippet)) := by
  have hnumber := Component.number?_of_isOmitted h
  constructor
  · intro hzero
    exact widget_start_congr (Component.sameGiven_of_isOmitted h
      (Button.paddingOf_set_eq_paddingOf_without hzero)) level
  · intro hzero
    constructor
    · exact widget_start_congr (Component.sameGiven_zero hnumber hzero) level
    · exact fun snippet hwithout => widget_withProp_ne hnumber hzero hwithout

def plainButton : Component :=
  .ofFields [("type", .string "Button")]

def plainCard : Component :=
  .ofFields [("type", .string "Card"), ("props", .object [("title", .string "News")])]

theorem isOmitted_autoPadding : Component.IsOmitted "padding" (.string "auto") :=
  .inr ⟨by decide, eq_ok_of_toOption (by decide)⟩

/-- A padding that is a word is no padding for a card, and no amount for a button. -/
theorem widget_withProp_autoPadding :
    start.widget (plainCard.withProp "padding" (.string "auto")) 0 =
      start.widget (plainCard.withoutProp "padding") 0 ∧
    start.widget (plainButton.withProp "padding" (.string "auto")) 0 =
      start.widget (plainButton.withProp "padding" (.integer 0)) 0 := by
  constructor
  · refine (widget_withProp_of_isOmitted plainCard isOmitted_autoPadding 0).1 fun hzero => ?_
    exact absurd hzero.1 (by decide)
  · exact ((widget_withProp_of_isOmitted plainButton isOmitted_autoPadding 0).2
      ⟨by decide, rfl, .inl rfl⟩).1

/-- A button whose padding is an empty text is written, and not as it is without the
padding. -/
theorem widget_withProp_blankPadding :
    Component.IsOmitted "padding" (.string "") ∧
      ∃ snippet, start.widget (plainButton.withoutProp "padding") 0 = .ok (some snippet) ∧
        start.widget (plainButton.withProp "padding" (.string "")) 0 ≠ .ok (some snippet) := by
  have hread : (Widget.ofComponent (plainButton.withoutProp "padding")).isOk = true := by
    decide +kernel
  obtain ⟨w, hw⟩ := (exists_eq_ok_iff _).2 hread
  have hwithout := widget_start_of_not_isHeader (c := plainButton.withoutProp "padding")
    (by decide) 0
  rw [hw] at hwithout
  refine ⟨.inl rfl, _, hwithout, ?_⟩
  exact widget_withProp_ne (Json.number?_of_not_isPresent rfl) ⟨by decide, rfl, .inl rfl⟩ hwithout

end Emission

end Maquette
