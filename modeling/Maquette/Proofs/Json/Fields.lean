import Maquette.Json.Basic

/-!
# Setting and removing fields

What a field is read as after some field was set or removed. A removed field reads as
`null`, and so does one that is set to `null`.
-/

namespace Maquette

namespace Fields

theorem get_set (fields : Fields) (name : String) (value : Json) (other : String) :
    (fields.set name value).get other = if other = name then value else fields.get other := by
  induction fields with
  | nil => rw [set, get_cons]
  | cons field rest ih =>
    obtain ⟨key, old⟩ := field
    rw [set]
    by_cases hkey : key = name
    · rw [if_pos hkey, get_cons, get_cons, hkey]
      by_cases hother : other = name
      · rw [if_pos hother, if_pos hother]
      · rw [if_neg hother, if_neg hother, if_neg hother]
    · rw [if_neg hkey, get_cons, get_cons, ih]
      by_cases hother : other = key
      · rw [if_pos hother, if_pos hother, if_neg (hother ▸ hkey)]
      · rw [if_neg hother, if_neg hother]

/-- The fields without those of a name. -/
def without (fields : Fields) (name : String) : Fields :=
  fields.filter fun field => field.1 != name

theorem get_without (fields : Fields) (name other : String) :
    (fields.without name).get other = if other = name then .null else fields.get other := by
  induction fields with
  | nil => rw [without, List.filter_nil, get_nil, ite_self]
  | cons field rest ih =>
    obtain ⟨key, value⟩ := field
    rw [without] at ih ⊢
    rw [get_cons]
    by_cases hkey : key = name
    · rw [List.filter_cons_of_neg (by simp [hkey]), ih, hkey]
      by_cases hother : other = name
      · rw [if_pos hother, if_pos hother]
      · rw [if_neg hother, if_neg hother, if_neg hother]
    · rw [List.filter_cons_of_pos (by simp [hkey]), get_cons, ih]
      by_cases hother : other = key
      · rw [if_pos hother, if_pos hother, if_neg (hother ▸ hkey)]
      · rw [if_neg hother, if_neg hother]

theorem get_set_self (fields : Fields) (name : String) (value : Json) :
    (fields.set name value).get name = value := by
  rw [get_set, if_pos rfl]

theorem get_without_self (fields : Fields) (name : String) :
    (fields.without name).get name = .null := by
  rw [get_without, if_pos rfl]

/-- A field that is set and one that is removed leave the other fields as they are. -/
theorem get_set_eq_get_without {name other : String} (h : other ≠ name) (fields : Fields)
    (value : Json) : (fields.set name value).get other = (fields.without name).get other := by
  rw [get_set, get_without, if_neg h, if_neg h]

end Fields

end Maquette
