import Maquette.Proofs.Json.Fields
import Maquette.Property

/-!
# Values of the wrong shape

The shape that a payload is read in: which of its fields are read as numbers, texts,
objects and arrays. A value that has not the shape that is wanted in its place can be
removed from the payload, and `Pruned` is one such removal, at any depth.

What a removal means for a reader is said by `Alike`, level by level: two values that
are read in the same shape are the same, or one of them was removed, or the removal is
further in.
-/

namespace Maquette

/-- The shape that a value is read in. The fields of an object that are not named are read
as they are, and the shape of an item may depend on the item. -/
inductive Shape
  | number
  | text
  | object (fields : List (String × Shape))
  | array (item : Json → Shape)

namespace Shape

/-- The value can be read in the shape. -/
def Fits : Shape → Json → Prop
  | number, value => value.number? ≠ .ok none
  | text, value => value.string?.isSome = true
  | object _, value => value.fields?.isSome = true
  | array _, value => value.items?.isSome = true

/-- One value of the wrong shape was removed, at any depth. -/
inductive Pruned : Shape → Json → Json → Prop
  | field {shapes : List (String × Shape)} {fields : Fields} (name : String) {s : Shape}
      (hs : shapes.lookup name = some s) (h : ¬s.Fits (fields.get name)) :
      Pruned (object shapes) (.object fields) (.object (fields.without name))
  | inField {shapes : List (String × Shape)} {fields : Fields} (name : String) {s : Shape}
      {value : Json} (hs : shapes.lookup name = some s) (h : Pruned s (fields.get name) value) :
      Pruned (object shapes) (.object fields) (.object (fields.set name value))
  | item {item : Json → Shape} (before after : List Json) {value : Json}
      (h : ¬(item value).Fits value) :
      Pruned (array item) (.array (before ++ value :: after)) (.array (before ++ after))
  | inItem {item : Json → Shape} (before after : List Json) {value value' : Json}
      (h : Pruned (item value) value value') :
      Pruned (array item) (.array (before ++ value :: after)) (.array (before ++ value' :: after))

/-- The two values are read alike: they are the same, or the second is missing and the
first has not the shape, or something was removed inside of the first. -/
inductive Alike (s : Shape) : Json → Json → Prop
  | same (value : Json) : Alike s value value
  | removed {value : Json} (h : ¬s.Fits value) : Alike s value .null
  | pruned {value value' : Json} (h : Pruned s value value') : Alike s value value'

variable {shapes : List (String × Shape)} {value value' : Json}

theorem number?_of_not_fits (h : ¬number.Fits value) : value.number? = .ok none :=
  Classical.not_not.1 h

theorem fields?_of_not_fits (h : ¬(object shapes).Fits value) : value.fields? = none := by
  rwa [Fits, Bool.not_eq_true, Option.isSome_eq_false_iff, Option.isNone_iff_eq_none] at h

theorem fieldsOrNone_of_fields?_eq_none (h : value.fields? = none) : value.fieldsOrNone = [] := by
  cases value with
  | object fields => cases h
  | _ => rfl

/-- Something was removed from an object. -/
theorem Pruned.exists_objects (h : (object shapes).Pruned value value') :
    ∃ fields fields', value = .object fields ∧ value' = .object fields' := by
  cases h with
  | field => exact ⟨_, _, rfl, rfl⟩
  | inField => exact ⟨_, _, rfl, rfl⟩

namespace Alike

theorem number?_eq (h : number.Alike value value') : value.number? = value'.number? := by
  cases h with
  | same => rfl
  | removed hvalue => rw [number?_of_not_fits hvalue, Json.number?_null]
  | pruned hvalue => cases hvalue

theorem string?_eq (h : text.Alike value value') : value.string? = value'.string? := by
  cases h with
  | same => rfl
  | removed hvalue =>
    rw [Fits, Bool.not_eq_true, Option.isSome_eq_false_iff, Option.isNone_iff_eq_none] at hvalue
    rw [hvalue]
    rfl
  | pruned hvalue => cases hvalue

/-- A field that is read in some shape is alike in objects that are alike. -/
theorem get (h : (object shapes).Alike value value') (name : String) {s : Shape}
    (hs : shapes.lookup name = some s) :
    s.Alike (value.fieldsOrNone.get name) (value'.fieldsOrNone.get name) := by
  cases h with
  | same => exact same _
  | removed hvalue =>
    rw [fieldsOrNone_of_fields?_eq_none (fields?_of_not_fits hvalue)]
    exact same _
  | pruned hvalue =>
    cases hvalue with
    | @field _ fields other _ hother hmember =>
      change s.Alike (fields.get name) ((fields.without other).get name)
      rw [Fields.get_without]
      by_cases hname : name = other
      · subst hname
        obtain rfl := Option.some.inj (hs.symm.trans hother)
        rw [if_pos rfl]
        exact removed hmember
      · rw [if_neg hname]
        exact same _
    | @inField _ fields other _ replaced hother hmember =>
      change s.Alike (fields.get name) ((fields.set other replaced).get name)
      rw [Fields.get_set]
      by_cases hname : name = other
      · subst hname
        obtain rfl := Option.some.inj (hs.symm.trans hother)
        rw [if_pos rfl]
        exact pruned hmember
      · rw [if_neg hname]
        exact same _

/-- The other fields are the same. -/
theorem get_eq {name : String} (h : (object shapes).Alike value value')
    (hs : shapes.lookup name = none) :
    value.fieldsOrNone.get name = value'.fieldsOrNone.get name := by
  have hne {other : String} {s : Shape} (hother : shapes.lookup other = some s) : name ≠ other := by
    rintro rfl
    rw [hs] at hother
    cases hother
  cases h with
  | same => rfl
  | removed hvalue =>
    rw [fieldsOrNone_of_fields?_eq_none (fields?_of_not_fits hvalue)]
    rfl
  | pruned hvalue =>
    cases hvalue with
    | @field _ fields other _ hother _ =>
      change fields.get name = (fields.without other).get name
      rw [Fields.get_without, if_neg (hne hother)]
    | @inField _ fields other _ replaced hother _ =>
      change fields.get name = (fields.set other replaced).get name
      rw [Fields.get_set, if_neg (hne hother)]

/-- An object whose fields are all read as they are is the same, or both are none. -/
theorem fields?_eq (h : (object []).Alike value value') : value.fields? = value'.fields? := by
  cases h with
  | same => rfl
  | removed hvalue => exact fields?_of_not_fits hvalue
  | pruned hvalue =>
    cases hvalue with
    | field _ hs _ => cases hs
    | inField _ hs _ => cases hs

theorem fieldsOrNone_eq (h : (object []).Alike value value') :
    value.fieldsOrNone = value'.fieldsOrNone := by
  have hnone (v : Json) : v.fieldsOrNone = v.fields?.getD [] := by cases v <;> rfl
  rw [hnone, hnone, h.fields?_eq]

end Alike

/-- An object that is read for some numbers. -/
def numbers (names : List String) : Shape :=
  object (names.map fun name => (name, number))

theorem lookup_numbers (names : List String) (name : String) :
    (names.map fun name => (name, number)).lookup name =
      if name ∈ names then some number else none := by
  induction names with
  | nil => rfl
  | cons first rest ih =>
    rw [List.map_cons, List.lookup_cons, ih]
    by_cases hname : name = first
    · simp [hname]
    · simp [hname, beq_eq_false_iff_ne.2 hname]

namespace Alike

variable {names : List String}

theorem number?_get_eq (h : (numbers names).Alike value value') (name : String) :
    (value.fieldsOrNone.get name).number? = (value'.fieldsOrNone.get name).number? := by
  have hshape := lookup_numbers names name
  by_cases hname : name ∈ names
  · rw [if_pos hname] at hshape
    exact (h.get name hshape).number?_eq
  · rw [if_neg hname] at hshape
    rw [h.get_eq hshape]

theorem get_numbers_eq (h : (numbers names).Alike value value') {name : String}
    (hname : name ∉ names) : value.fieldsOrNone.get name = value'.fieldsOrNone.get name := by
  have hshape := lookup_numbers names name
  rw [if_neg hname] at hshape
  exact h.get_eq hshape

end Alike

end Shape

end Maquette
