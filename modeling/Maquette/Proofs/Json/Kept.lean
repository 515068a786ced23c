import Maquette.Proofs.Json.RoundTrip
import Maquette.Service.Field
import Mathlib.Data.List.Nodup

/-!
# Values from outside

A value from outside has texts of nothing but characters, and these are brought into
the form that texts are kept in. `isPortable_kept` says which of these values are read
back as they were: the texts in them do not matter.
-/

namespace Maquette.Json

open Service (isFinite itemsFinite fieldsFinite)

mutual

/-- A value from outside, with its texts as they are kept. -/
def kept : Json → Json
  | string text => string (Text.kept text)
  | array items => array (keptItems items)
  | object fields => object (keptFields fields)
  | v => v

def keptItems : List Json → List Json
  | [] => []
  | item :: rest => kept item :: keptItems rest

def keptFields : List (String × Json) → List (String × Json)
  | [] => []
  | (name, value) :: rest => (Text.kept name, kept value) :: keptFields rest

end

mutual

/-- No object in the value has two fields with one name. -/
def namesDiffer : Json → Bool
  | array items => itemNamesDiffer items
  | object fields => decide (fields.map Prod.fst).Nodup && fieldNamesDiffer fields
  | _ => true

def itemNamesDiffer : List Json → Bool
  | [] => true
  | item :: rest => namesDiffer item && itemNamesDiffer rest

def fieldNamesDiffer : List (String × Json) → Bool
  | [] => true
  | (_, value) :: rest => namesDiffer value && fieldNamesDiffer rest

end

theorem map_fst_keptFields (fields : List (String × Json)) :
    (keptFields fields).map Prod.fst = (fields.map Prod.fst).map Text.kept := by
  induction fields with
  | nil => rfl
  | cons field rest ih => exact congrArg (Text.kept field.1 :: ·) ih

/-- Names that are different are still so when they are kept. -/
theorem nodup_names_keptFields (fields : List (String × Json)) :
    ((keptFields fields).map Prod.fst).Nodup ↔ (fields.map Prod.fst).Nodup := by
  rw [map_fst_keptFields, List.nodup_map_iff Text.kept_injective]

mutual

/-- Whatever characters are in its texts, a value from outside is portable if its numbers
are finite and the names in its objects differ. -/
theorem isPortable_kept : ∀ v : Json, v.kept.isPortable = (isFinite v && v.namesDiffer)
  | null => rfl
  | bool _ => rfl
  | integer _ => rfl
  | number x => (Bool.and_true x.isFinite).symm
  | string text => Text.isPortable_kept text
  | array items => arePortableItems_keptItems items
  | object fields => by
    rw [kept, isPortable, isFinite, namesDiffer, arePortableFields_keptFields,
      decide_eq_decide.2 (nodup_names_keptFields fields), Bool.and_left_comm]

theorem arePortableItems_keptItems : ∀ items : List Json,
    arePortableItems (keptItems items) = (itemsFinite items && itemNamesDiffer items)
  | [] => rfl
  | item :: rest => by
    rw [keptItems, arePortableItems, itemsFinite, itemNamesDiffer, isPortable_kept item,
      arePortableItems_keptItems rest, Bool.and_assoc (isFinite item),
      Bool.and_assoc (isFinite item), Bool.and_left_comm item.namesDiffer]

theorem arePortableFields_keptFields : ∀ fields : List (String × Json),
    arePortableFields (keptFields fields) = (fieldsFinite fields && fieldNamesDiffer fields)
  | [] => rfl
  | (name, value) :: rest => by
    rw [keptFields, arePortableFields, fieldsFinite, fieldNamesDiffer, Text.isPortable_kept,
      Bool.true_and, isPortable_kept value, arePortableFields_keptFields rest,
      Bool.and_assoc (isFinite value), Bool.and_assoc (isFinite value),
      Bool.and_left_comm value.namesDiffer]

end

end Maquette.Json
