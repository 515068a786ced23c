import Mathlib.Logic.Relation
import Maquette.Proofs.Document.Structure
import Maquette.Proofs.Geometry.Frame
import Maquette.Proofs.Screen.Shape

/-!
# Malformed payloads

Whatever is malformed in a saved screen counts as missing: the code of the screen, or
its failure, stays the same when the malformed value is removed from the payload. The
values inside of the properties of components on the stack are not meant, except that
the properties as a whole have to be an object.
-/

namespace Maquette

namespace Component.ReadAlike

variable {c c' : Component} (h : c.ReadAlike c')

include h

theorem typeKey_eq : c.typeKey = c'.typeKey := by
  rw [typeKey, h.type_eq, typeKey]

theorem isHeader_eq : c.isHeader = c'.isHeader := by
  rw [isHeader, h.typeKey_eq, isHeader]

/-- On the stack, components that are read alike are given the same. -/
theorem sameGiven (hheader : c.isHeader = false) : c.SameGiven c' where
  type_eq := h.type_eq
  fraction?_eq := h.fraction?_eq
  given_eq key _ := by rw [h.props_eq hheader]
  number_eq key _ _ := h.barNumber_eq key
  padding_eq _ := by rw [h.props_eq hheader]

theorem ofComponent_geometry_eq : Geometry.ofComponent c = Geometry.ofComponent c' :=
  Geometry.ofComponent_congr (fun name _ => h.position_eq name) (fun name _ => h.size_eq name)
    fun name _ => h.fraction?_eq name

theorem reading_eq (hheader : c.isHeader = false) : c.reading = c'.reading := by
  rw [reading, Widget.ofComponent_congr (h.sameGiven hheader), h.ofComponent_geometry_eq, reading]

theorem ofComponent_header_eq (appName : Json) :
    Header.ofComponent appName c = Header.ofComponent appName c' := by
  unfold Header.ofComponent Header.titleSizeOf Json.numberAtLeast Json.numberOr
  simp (disch := decide) only [h.barNumber_eq, h.bar_eq, h.fraction?_eq]

end Component.ReadAlike

namespace Arrangement

variable {cs cs' : List Component} (h : List.Forall₂ Component.ReadAlike cs cs')

include h

theorem header?_congr (appName : Json) :
    (ofComponents cs).header? appName = (ofComponents cs').header? appName := by
  rw [header?_eq, header?_eq]
  induction h with
  | nil => rfl
  | cons hfirst _ ih =>
    rw [List.find?_cons, List.find?_cons, ← hfirst.isHeader_eq]
    split
    · simp only [Option.mapM_some, hfirst.ofComponent_header_eq]
    · exact ih

theorem mapM_reading_congr :
    (ofComponents cs).placed.mapM Component.reading =
      (ofComponents cs').placed.mapM Component.reading := by
  induction h with
  | nil => rfl
  | @cons c c' rest rest' hfirst _ ih =>
    simp only [ofComponents] at ih ⊢
    rw [List.filter_cons, List.filter_cons, ← hfirst.isHeader_eq]
    cases hheader : c.isHeader with
    | true => exact ih
    | false =>
      rw [if_pos Bool.not_false, if_pos Bool.not_false, List.mapM_cons, List.mapM_cons,
        hfirst.reading_eq hheader, ih]

end Arrangement

namespace Document

/-- A value of the wrong shape can be removed from a saved screen. -/
theorem map_code_ofValue_of_pruned (appName : Json) {value value' : Json}
    (h : Screen.shape.Pruned value value') :
    (ofValue appName value).map code = (ofValue appName value').map code := by
  have halike := Shape.Alike.pruned h
  have hcomponents := Screen.forall₂_components_ofValue halike
  have hlength := hcomponents.length_eq
  refine map_code_ofScreen_congr_of_read appName ?_ ?_
    (Arrangement.header?_congr hcomponents appName) (Arrangement.mapM_reading_congr hcomponents)
  · rw [Bool.eq_iff_iff, List.isEmpty_iff_length_eq_zero, List.isEmpty_iff_length_eq_zero, hlength]
  · rw [Screen.background, Screen.properties_ofValue_eq halike, Screen.background]

/-- So can any number of them, one after the other. -/
theorem map_code_ofValue_of_malformed (appName : Json) {value value' : Json}
    (h : Relation.ReflTransGen Screen.shape.Pruned value value') :
    (ofValue appName value).map code = (ofValue appName value').map code := by
  induction h with
  | refl => rfl
  | tail _ hstep ih => exact ih.trans (map_code_ofValue_of_pruned appName hstep)

/-- A saved screen whose content is no object, with an entry that is no component, and a
component whose left edge is a flag. -/
def flawedScreen : Json :=
  .object [
    ("content", .bool true),
    ("components", .array [
      .object [("type", .string "Text"), ("position", .object [("x", .bool true)])],
      .integer 3])]

/-- The same without the three. -/
def flawlessScreen : Json :=
  .object [("components", .array [
    .object [("type", .string "Text"), ("position", .object [])]])]

theorem pruned_flawedScreen :
    Relation.ReflTransGen Screen.shape.Pruned flawedScreen flawlessScreen := by
  have hcontent : Screen.shape.Pruned flawedScreen (.object [("components", .array [
      .object [("type", .string "Text"), ("position", .object [("x", .bool true)])],
      .integer 3])]) :=
    .field "content" rfl nofun
  have hentry : Screen.shape.Pruned
      (.object [("components", .array [
        .object [("type", .string "Text"), ("position", .object [("x", .bool true)])],
        .integer 3])])
      (.object [("components", .array [
        .object [("type", .string "Text"), ("position", .object [("x", .bool true)])]])]) :=
    .inField "components" rfl (.item [_] [] nofun)
  have hedge : Screen.shape.Pruned
      (.object [("components", .array [
        .object [("type", .string "Text"), ("position", .object [("x", .bool true)])]])])
      flawlessScreen := by
    refine .inField "components" rfl (.inItem [] [] ?_)
    exact .inField "position" rfl (.field "x" rfl fun h => h rfl)
  exact ((Relation.ReflTransGen.single hcontent).tail hentry).tail hedge

theorem map_code_flawedScreen :
    (ofValue (.string "App") flawedScreen).map code =
      (ofValue (.string "App") flawlessScreen).map code :=
  map_code_ofValue_of_malformed (.string "App") pruned_flawedScreen

end Document

end Maquette
