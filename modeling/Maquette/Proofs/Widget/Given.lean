import Maquette.Proofs.Emission.Widget
import Maquette.Proofs.Json.Fields
import Maquette.Proofs.Outcome

/-!
# Properties that are not given

A property that is `null` or an empty text is read like one that is missing, and so is
one that means no number where a number is read. The widget of a component only depends
on what it is given in this sense, with one exception: a button tells an amount of
padding that means no number from one that is missing.
-/

namespace Maquette

namespace Json

/-- Readings that take an empty text for a missing value only depend on what is given. -/
theorem congr_of_firstPresent? {α : Type} {f : Json → α} (hf : f (.string "") = f .null)
    {value value' : Json} (h : firstPresent? [value] = firstPresent? [value']) :
    f value = f value' := by
  have hgiven : ∀ v, f v = f ((firstPresent? [v]).getD .null) := by
    intro v
    cases hv : v.isPresent with
    | true => simp [firstPresent?, hv]
    | false =>
      cases v with
      | null => rfl
      | string text =>
        obtain rfl : text = "" := by simpa [isPresent] using hv
        exact hf
      | _ => cases hv
  rw [hgiven value, hgiven value', h]

theorem firstPresent?_of_not_isPresent {value : Json} (h : value.isPresent = false) :
    firstPresent? [value] = none := by
  simp [firstPresent?, h]

/-- The first given of several values is the first one, if that is given. -/
theorem firstPresent?_cons (value : Json) (rest : List Json) :
    firstPresent? (value :: rest) = (firstPresent? [value]).or (firstPresent? rest) := by
  cases h : value.isPresent <;> simp [firstPresent?, h]

theorem number?_of_not_isPresent {value : Json} (h : value.isPresent = false) :
    value.number? = .ok none := by
  have hnull : firstPresent? [value] = firstPresent? [.null] := firstPresent?_of_not_isPresent h
  exact congr_of_firstPresent? (f := number?) rfl hnull

end Json

namespace Component

/-- The properties that are read as numbers. -/
def numberKeys : List String := [
  "fontSize", "borderRadius", "borderWidth", "padding", "paddingHorizontal", "paddingVertical",
  "elevation", "titleSize", "size"]

/-- The properties that are read as amounts of padding. -/
def paddingKeys : List String := ["padding", "paddingHorizontal", "paddingVertical"]

/-- A value of a property that is no more than none: `null` and the empty text, and where
a number is read all that means none. -/
def IsOmitted (key : String) (value : Json) : Prop :=
  value.isPresent = false ∨ (key ∈ numberKeys ∧ value.number? = .ok none)

/-- Two components that are given the same. -/
structure SameGiven (c c' : Component) : Prop where
  type_eq : c.type = c'.type
  fraction?_eq : ∀ name, c.fraction? name = c'.fraction? name
  given_eq : ∀ key ∉ numberKeys,
    Json.firstPresent? [c.props.get key] = Json.firstPresent? [c'.props.get key]
  number_eq : ∀ key ∈ numberKeys, (key ∈ paddingKeys → c.typeKey ≠ "button") →
    (c.props.get key).number? = (c'.props.get key).number?
  padding_eq : c.typeKey = "button" → Button.paddingOf c.props = Button.paddingOf c'.props

namespace SameGiven

variable {c c' : Component} (h : c.SameGiven c')

include h

theorem typeKey_eq : c.typeKey = c'.typeKey := by
  rw [typeKey, h.type_eq, typeKey]

theorem isHeader_eq : c.isHeader = c'.isHeader := by
  rw [isHeader, h.typeKey_eq, isHeader]

theorem fontSize_eq (points : Binary64) : c.fontSize points = c'.fontSize points := by
  rw [fontSize, h.fraction?_eq, fontSize]

theorem firstPresent?_map_eq (keys : List String) (hkeys : ∀ key ∈ keys, key ∉ numberKeys) :
    Json.firstPresent? (keys.map c.props.get) = Json.firstPresent? (keys.map c'.props.get) := by
  induction keys with
  | nil => rfl
  | cons key rest ih =>
    have hrest := ih fun other hother => hkeys other (List.mem_cons_of_mem _ hother)
    rw [List.map_cons, List.map_cons, Json.firstPresent?_cons _ (rest.map c.props.get),
      Json.firstPresent?_cons _ (rest.map c'.props.get), h.given_eq key (hkeys key List.mem_cons_self),
      hrest]

theorem firstPresent_eq (key : String) (default : Json) (hkey : key ∉ numberKeys) :
    Json.firstPresent [c.props.get key] default = Json.firstPresent [c'.props.get key] default := by
  rw [Json.firstPresent, h.given_eq key hkey, Json.firstPresent]

theorem color_eq (names : List String) (default : String)
    (hnames : ∀ name ∈ names, name ∉ numberKeys) :
    c.props.color names default = c'.props.color names default := by
  rw [Fields.color, Json.firstPresent, h.firstPresent?_map_eq names hnames, Fields.color,
    Json.firstPresent]

theorem isWeight_eq (key : String) (weights : List String) (hkey : key ∉ numberKeys)
    (hweights : weights.contains "" = false) :
    (c.props.get key).isWeight weights = (c'.props.get key).isWeight weights := by
  have hempty : Json.isWeight weights (.string "") = Json.isWeight weights .null :=
    congrArg Except.ok hweights
  exact Json.congr_of_firstPresent? hempty (h.given_eq key hkey)

theorem isString_eq (key text : String) (hkey : key ∉ numberKeys) (htext : text ≠ "") :
    (c.props.get key).isString text = (c'.props.get key).isString text :=
  Json.congr_of_firstPresent? (f := Json.isString text) (beq_false_of_ne (Ne.symm htext))
    (h.given_eq key hkey)

theorem align_eq : TextAlign.ofValue (c.props.get "textAlign") =
    TextAlign.ofValue (c'.props.get "textAlign") :=
  Json.congr_of_firstPresent? (f := TextAlign.ofValue) (by decide)
    (h.given_eq "textAlign" (by decide))

theorem sourceOf_eq : Picture.sourceOf (c.props.get "src") = Picture.sourceOf (c'.props.get "src") :=
  Json.congr_of_firstPresent? (f := Picture.sourceOf) rfl (h.given_eq "src" (by decide))

theorem numberOr_eq (key : String) (default : Binary64) (hkey : key ∈ numberKeys)
    (hpadding : key ∉ paddingKeys) :
    (c.props.get key).numberOr default = (c'.props.get key).numberOr default := by
  rw [Json.numberOr, h.number_eq key hkey fun hmem => absurd hmem hpadding, Json.numberOr]

theorem numberAtLeast_eq (key : String) (default floor : Binary64) (hkey : key ∈ numberKeys)
    (hpadding : key ∉ paddingKeys) :
    (c.props.get key).numberAtLeast default floor =
      (c'.props.get key).numberAtLeast default floor := by
  rw [Json.numberAtLeast, h.numberOr_eq key default hkey hpadding, Json.numberAtLeast]

end SameGiven

end Component

section Readings

variable {c c' : Component} (h : c.SameGiven c')

include h

theorem Label.ofComponent_congr : ofComponent c = ofComponent c' := by
  simp (disch := decide) only [ofComponent, h.numberAtLeast_eq, h.isWeight_eq, h.fontSize_eq,
    h.firstPresent_eq, h.color_eq, h.align_eq, h.isString_eq]

theorem Heading.ofComponent_congr : ofComponent c = ofComponent c' := by
  simp (disch := decide) only [ofComponent, h.fontSize_eq, h.firstPresent_eq, h.color_eq,
    h.isString_eq]

theorem Button.ofComponent_congr (htype : c.typeKey = "button") :
    ofComponent c = ofComponent c' := by
  simp (disch := decide) only [ofComponent, h.numberAtLeast_eq, h.numberOr_eq, h.isWeight_eq,
    h.padding_eq htype, h.fontSize_eq, h.firstPresent_eq, h.color_eq]

theorem Card.titleOf_congr : titleOf c = titleOf c' := by
  simp (disch := decide) only [titleOf, h.given_eq, h.numberAtLeast_eq, h.fontSize_eq, h.color_eq]

theorem Card.bodyOf_congr : bodyOf c.props = bodyOf c'.props := by
  have hbody := h.firstPresent?_map_eq ["text", "content", "description"] (by decide)
  simp only [List.map_cons, List.map_nil] at hbody
  simp (disch := decide) only [bodyOf, hbody, h.numberAtLeast_eq, h.color_eq]

theorem Card.ofComponent_congr (htype : c.typeKey = "card") : ofComponent c = ofComponent c' := by
  have hpadding : (c.props.get "padding").number? = (c'.props.get "padding").number? :=
    h.number_eq "padding" (by decide) fun _ => by rw [htype]; decide
  have hamount : (c.props.get "padding").numberAtLeast 16 0 =
      (c'.props.get "padding").numberAtLeast 16 0 := by
    rw [Json.numberAtLeast, Json.numberOr, hpadding, Json.numberAtLeast, Json.numberOr]
  simp (disch := decide) only [ofComponent, h.numberAtLeast_eq, h.numberOr_eq, hamount,
    titleOf_congr h, bodyOf_congr h, h.color_eq]

theorem IconMark.ofComponent_congr : ofComponent c = ofComponent c' := by
  simp (disch := decide) only [ofComponent, h.numberAtLeast_eq, h.firstPresent_eq, h.color_eq]

theorem Picture.ofComponent_congr : ofComponent c = ofComponent c' := by
  simp (disch := decide) only [ofComponent, h.numberOr_eq, h.sourceOf_eq, h.firstPresent_eq]

theorem Box.captionOf_congr : captionOf c.props = captionOf c'.props := by
  simp (disch := decide) only [captionOf, h.given_eq, h.numberAtLeast_eq, h.color_eq]

theorem Box.ofComponent_congr : ofComponent c = ofComponent c' := by
  simp (disch := decide) only [ofComponent, h.numberOr_eq, captionOf_congr h, h.color_eq]

/-- Components that are given the same show the same. -/
theorem Widget.ofComponent_congr : ofComponent c = ofComponent c' := by
  unfold ofComponent
  rw [← h.typeKey_eq]
  split
  · rw [Label.ofComponent_congr h]
  · rw [Heading.ofComponent_congr h]
  · next htype => rw [Button.ofComponent_congr h htype]
  · next htype => rw [Card.ofComponent_congr h htype]
  · rw [IconMark.ofComponent_congr h]
  · rw [Picture.ofComponent_congr h]
  · rw [Box.ofComponent_congr h]
  · rw [placeholderOf, h.type_eq, placeholderOf]

theorem Emission.widget_start_congr (level : Int) :
    start.widget c level = start.widget c' level := by
  rw [widget, h.isHeader_eq, emitterFor_start, Widget.ofComponent_congr h, ← emitterFor_start,
    widget]

end Readings

end Maquette
