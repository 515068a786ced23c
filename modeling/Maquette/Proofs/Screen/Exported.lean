import Maquette.Json.Display
import Maquette.Proofs.Number.Numeral
import Maquette.Screen

/-!
# Reading exported screens

A screen is exported under other names than most builders use, so reading it takes
other branches of the rules for what may be missing. They lead to the same screen. The
names are what could go wrong: an empty name counts as missing. But a name is the
displayed text of a value that is given, or a default, and neither is ever empty.
-/

namespace Maquette

namespace Json

theorem integerText_ne_empty (n : Int) : integerText n ≠ "" := by
  rw [integerText, ne_eq, String.ofList_eq_empty_iff, List.append_eq_nil_iff]
  exact fun h => decimalDigits_ne_nil n.natAbs h.2

theorem text_ne_empty (x : Binary64) : x.text ≠ "" := by
  cases x with
  | finite s m =>
    obtain ⟨n, htext, -⟩ := Binary64.exists_text_eq s m
    obtain ⟨d, rest, hdigits, -⟩ := n.exists_text_eq_cons
    rw [htext, hdigits, ne_eq, String.ofList_eq_empty_iff, List.append_eq_nil_iff]
    exact fun h => List.cons_ne_nil d rest h.2
  | infinite s => cases s <;> decide
  | nan => decide

/-- Whatever is spelled out has at least one character. -/
theorem shown_ne_empty (v : Json) : v.shown ≠ "" := by
  cases v with
  | null => decide
  | bool value => cases value <;> decide
  | integer n =>
    rw [shown]
    exact integerText_ne_empty n
  | number x =>
    rw [shown]
    exact text_ne_empty x
  | string text =>
    rw [shown, Text.quotedText, ne_eq, String.ofList_eq_empty_iff]
    exact List.cons_ne_nil _ _
  | array items => simp [shown]
  | object fields => simp [shown]

/-- A given value is displayed as a text that counts as given. -/
theorem display_ne_empty {v : Json} (h : v.isPresent = true) : v.display ≠ "" := by
  cases v with
  | string text => exact bne_iff_ne.1 h
  | _ => exact shown_ne_empty _

theorem firstPresent_null (values : List Json) (default : Json) :
    firstPresent (.null :: values) default = firstPresent values default := rfl

theorem firstPresent_string {text : String} (h : text ≠ "") (values : List Json)
    (default : Json) : firstPresent (.string text :: values) default = .string text := by
  have hpresent : isPresent (.string text) = true := bne_iff_ne.2 h
  rw [firstPresent, firstPresent?, List.find?_cons_of_pos hpresent, Option.getD_some]

theorem firstPresent_empty (values : List Json) (default : Json) :
    firstPresent (.string "" :: values) default = firstPresent values default := rfl

/-- A text of a default that is given is never empty. -/
theorem display_firstPresent_ne_empty (values : List Json) {default : Json}
    (h : default.isPresent = true) : (firstPresent values default).display ≠ "" := by
  refine display_ne_empty ?_
  rw [firstPresent, firstPresent?]
  cases hfound : values.find? isPresent with
  | none => exact h
  | some value => exact List.find?_some hfound

end Json

namespace Component

/-- The objects among some entries are exported as they were. -/
theorem map_toJson_filterMap_ofValue? (entries : List Json) :
    (entries.filterMap ofValue?).map toJson = entries.filter (·.fields?.isSome) := by
  rw [List.map_filterMap, ← List.filterMap_eq_filter]
  refine congrArg (fun read => entries.filterMap read) (funext fun entry => ?_)
  cases entry <;> rfl

/-- Reading the exported components gives them again. -/
theorem filterMap_ofValue?_map_toJson (entries : List Json) :
    ((entries.filterMap ofValue?).map toJson).filterMap ofValue? =
      entries.filterMap ofValue? := by
  rw [map_toJson_filterMap_ofValue?, List.filterMap_filter]
  refine congrArg (fun read => entries.filterMap read) (funext fun entry => ?_)
  cases entry <;> rfl

end Component

namespace Screen

theorem name_ne_empty (value : Json) : (ofValue value).name ≠ "" :=
  Json.display_firstPresent_ne_empty _ (by decide)

theorem title_ne_empty (value : Json) : (ofValue value).title ≠ "" :=
  Json.display_firstPresent_ne_empty _ (by decide)

/-- An exported screen is read as the screen it was exported from. -/
theorem ofValue_toJson (value : Json) : ofValue (ofValue value).toJson = ofValue value := by
  generalize hscreen : ofValue value = s
  have hname : (Json.firstPresent [.null, .string s.name] (.string "home")).display = s.name := by
    rw [Json.firstPresent_null, Json.firstPresent_string (hscreen ▸ name_ne_empty value),
      Json.display_string]
  have htitle : (Json.firstPresent [.string s.title, .null] (.string "Home")).display =
      s.title := by
    rw [Json.firstPresent_string (hscreen ▸ title_ne_empty value), Json.display_string]
  have hcomponents : (s.components.map Component.toJson).filterMap Component.ofValue? =
      s.components := by
    rw [← hscreen]
    exact Component.filterMap_ofValue?_map_toJson _
  calc ofValue s.toJson
    _ = ⟨(Json.firstPresent [.null, .string s.name] (.string "home")).display,
          (Json.firstPresent [.string s.title, .null] (.string "Home")).display,
          (s.components.map Component.toJson).filterMap Component.ofValue?,
          s.properties, s.metadata⟩ := rfl
    _ = s := by rw [hname, htitle, hcomponents]

/-- The screens of an exported list are read again one by one. -/
theorem listOfValue_map_toJson (value : Json) :
    listOfValue (.array ((listOfValue value).map toJson)) = listOfValue value := by
  unfold listOfValue
  rw [Json.items?, Option.getD_some, List.map_map, List.map_map]
  refine List.map_congr_left ?_
  intro entry _
  exact ofValue_toJson entry

end Screen

end Maquette
