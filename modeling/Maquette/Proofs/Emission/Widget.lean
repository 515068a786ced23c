import Maquette.Proofs.Emission.Run
import Maquette.Proofs.Outcome

/-!
# The widget of a component

The built-in emitters read a widget first and write it in code then. So what a
component of any type emits is the code of one widget, and the code that places
it depends on that widget and on the geometry of the component alone.
-/

namespace Maquette

namespace Widget

/-- The widget that a component shows, by its type. -/
def ofComponent (c : Component) : Except NumberError Widget :=
  match c.typeKey with
  | "text" => (Label.ofComponent c).map label
  | "heading" => (Heading.ofComponent c).map heading
  | "button" => (Button.ofComponent c).map button
  | "card" => (Card.ofComponent c).map card
  | "icon" => (IconMark.ofComponent c).map icon
  | "image" => (Picture.ofComponent c).map picture
  | "container" => (Box.ofComponent c).map box
  | _ => .ok (placeholderOf c)

end Widget

namespace Emitter

variable {α : Type}

theorem code_of_reading (reading : Except NumberError α) (widget : α → Widget) :
    (do return (widget (← reading)).code : Except NumberError String) =
      (reading.map widget).map Widget.code := by
  cases reading <;> rfl

end Emitter

namespace Emission

theorem emitterFor_start (c : Component) :
    start.emitterFor c c = (Widget.ofComponent c).map Widget.code := by
  unfold emitterFor Widget.ofComponent start Emitter.builtIn
  split
  · next h => simpa [h, List.lookup_cons] using Emitter.code_of_reading _ _
  · next h => simpa [h, List.lookup_cons] using Emitter.code_of_reading _ _
  · next h => simpa [h, List.lookup_cons] using Emitter.code_of_reading _ _
  · next h => simpa [h, List.lookup_cons] using Emitter.code_of_reading _ _
  · next h => simpa [h, List.lookup_cons] using Emitter.code_of_reading _ _
  · next h => simpa [h, List.lookup_cons] using Emitter.code_of_reading _ _
  · next h => simpa [h, List.lookup_cons] using Emitter.code_of_reading _ _
  · next h₁ h₂ h₃ h₄ h₅ h₆ h₇ =>
    simp [List.lookup_cons, beq_eq_false_iff_ne.2 h₁, beq_eq_false_iff_ne.2 h₂,
      beq_eq_false_iff_ne.2 h₃, beq_eq_false_iff_ne.2 h₄, beq_eq_false_iff_ne.2 h₅,
      beq_eq_false_iff_ne.2 h₆, beq_eq_false_iff_ne.2 h₇, Emitter.placeholder, Except.map]

/-- The code that places a widget. -/
def rowOf (w : Widget) (g : Geometry) (level : Int) : String :=
  g.positioned (Text.indent (Text.levelMargin (level + 1)) w.code.toList) level

end Emission

/-- What a component is read as: its widget and its geometry. -/
def Component.reading (c : Component) : Except NumberError (Widget × Geometry) := do
  let w ← Widget.ofComponent c
  let g ← Geometry.ofComponent c
  return (w, g)

theorem Component.of_reading_eq_ok {c : Component} {row : Widget × Geometry}
    (h : c.reading = .ok row) :
    Widget.ofComponent c = .ok row.1 ∧ Geometry.ofComponent c = .ok row.2 := by
  obtain ⟨w, hw, h⟩ := exists_of_bind_eq_ok h
  obtain ⟨g, hg, h⟩ := exists_of_bind_eq_ok h
  obtain rfl := Except.ok.inj h
  exact ⟨hw, hg⟩

namespace Emission

theorem placed_start_of_not_isHeader {c : Component} (h : c.isHeader = false) (level : Int) :
    start.placed c level =
      c.reading.map fun found => some (rowOf found.1 found.2 level, found.2.usesFrame) := by
  rw [placed, widget, if_neg (by simp [h]), emitterFor_start, Component.reading]
  cases Widget.ofComponent c with
  | error e => rfl
  | ok w => cases Geometry.ofComponent c <;> rfl

/-- A run over components that are no headers: every one of them has a row, which
is read off its widget and its geometry. -/
theorem outcomes_start_eq (level : Int) {cs : List Component}
    (h : ∀ c ∈ cs, c.isHeader = false) :
    start.outcomes level cs = (cs.mapM Component.reading).map fun found =>
      found.map fun read => some (rowOf read.1 read.2 level, read.2.usesFrame) := by
  induction cs with
  | nil => rfl
  | cons c cs ih =>
    have hc := placed_start_of_not_isHeader (h c List.mem_cons_self) level
    have hcs := ih fun c hc => h c (List.mem_cons_of_mem _ hc)
    rw [outcomes_cons, List.mapM_cons, hc, hcs]
    cases c.reading with
    | error e => rfl
    | ok read => cases cs.mapM Component.reading <;> rfl

end Emission

end Maquette
