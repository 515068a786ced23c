import Maquette.Proofs.Emission.Run
import Maquette.Proofs.Geometry.Frame

/-!
# Runs of any steps

A run is asked to register emitters, to emit components and to place them, in any order,
and a step that fails does not end it. Two things are kept apart all along: the emitters,
which only a registration changes and which alone decide what a step gives, and the flag
for the scales of the reference frame, which only a component that was placed in the
frame switches on and which nothing switches off.

So what a step gives is told by the registrations before it, and the flag after all steps
by the steps that placed something.
-/

namespace Maquette

namespace Emission

/-- The step takes an emitter for a type. -/
def Step.isRegistration : Step → Bool
  | register _ _ => true
  | _ => false

/-- The step has given the code of a component that is placed in the reference frame. -/
def Step.PlacesInFrame (step : Step) (outcome : Except NumberError (Option String)) : Prop :=
  ∃ c level code, step = .component c level ∧ outcome = .ok (some code) ∧
    ∀ name ∈ Component.placeFractions, c.fraction? name = .ok none

variable {e e' : Emission}

theorem perform_congr (h : e.emitters = e'.emitters) (step : Step) :
    (e.perform step).1 = (e'.perform step).1 := by
  cases step with
  | register type emitter => rfl
  | widget c level => simp only [perform, widget, emitterFor, h]
  | component c level => simp only [perform, component, placed_congr h]

theorem emitters_perform_of_not_isRegistration {step : Step} (h : step.isRegistration = false) :
    (e.perform step).2.emitters = e.emitters := by
  cases step with
  | register type emitter => cases h
  | widget c level => rfl
  | component c level => exact e.emitters_after _

theorem emitters_perform_congr (h : e.emitters = e'.emitters) (step : Step) :
    (e.perform step).2.emitters = (e'.perform step).2.emitters := by
  cases hstep : step.isRegistration with
  | false =>
    rw [emitters_perform_of_not_isRegistration hstep, h,
      emitters_perform_of_not_isRegistration hstep]
  | true =>
    cases step with
    | register type emitter => simp only [perform, register, h]
    | widget c level => cases hstep
    | component c level => cases hstep

/-- The emitters after some steps are those after the registrations among them. -/
theorem emitters_performAll_filter (h : e.emitters = e'.emitters) (steps : List Step) :
    (e.performAll steps).2.emitters =
      (e'.performAll (steps.filter Step.isRegistration)).2.emitters := by
  induction steps generalizing e e' with
  | nil => exact h
  | cons step rest ih =>
    cases hstep : step.isRegistration with
    | false =>
      rw [List.filter_cons_of_neg (by simp [hstep])]
      exact ih ((emitters_perform_of_not_isRegistration hstep).trans h)
    | true =>
      rw [List.filter_cons_of_pos hstep]
      exact ih (emitters_perform_congr h step)

/-- What a step gives is what it gives after the steps in front of it. -/
theorem getElem?_performAll (e : Emission) (steps : List Step) (i : Nat) :
    (e.performAll steps).1[i]? =
      steps[i]?.map fun step => ((e.performAll (steps.take i)).2.perform step).1 := by
  induction steps generalizing e i with
  | nil => rfl
  | cons step rest ih =>
    cases i with
    | zero => rfl
    | succ i => exact ih (e.perform step).2 i

theorem widget_of_isHeader {c : Component} (h : c.isHeader = true) (level : Int) :
    e.widget c level = .ok none := by
  rw [widget, if_pos h]

theorem placed_of_isHeader {c : Component} (h : c.isHeader = true) (level : Int) :
    e.placed c level = .ok none := by
  rw [placed, widget_of_isHeader h]
  rfl

/-- A component that was placed asks for the scales exactly if it is in the frame. -/
theorem eq_isFramed_of_placed {c : Component} {level : Int} {code : String} {needsFrame : Bool}
    (h : e.placed c level = .ok (some (code, needsFrame))) : needsFrame = c.isFramed := by
  obtain ⟨found, -, h⟩ := exists_of_bind_eq_ok h
  cases found with
  | none => cases Except.ok.inj h
  | some snippet =>
    obtain ⟨geometry, hgeometry, h⟩ := exists_of_bind_eq_ok h
    rw [← Geometry.usesFrame_of_ofComponent hgeometry]
    exact (Prod.mk.inj (Option.some.inj (Except.ok.inj h))).2.symm

theorem usesFrame_perform (e : Emission) (step : Step) :
    (e.perform step).2.usesFrame = true ↔
      e.usesFrame = true ∨ step.PlacesInFrame (e.perform step).1 := by
  cases step with
  | register type emitter => simp [perform, register, Step.PlacesInFrame]
  | widget c level => simp [perform, Step.PlacesInFrame]
  | component c level =>
    simp only [perform, component, Step.PlacesInFrame]
    cases hplaced : e.placed c level with
    | error error => simp [after, Except.map]
    | ok found =>
      cases found with
      | none => simp [after, Except.map]
      | some row =>
        obtain ⟨code, needsFrame⟩ := row
        obtain rfl := eq_isFramed_of_placed hplaced
        simp [after, Except.map, ← Component.isFramed_iff]

/-- The flag after some steps is on if it was on before them or one of them has placed a
component in the frame. -/
theorem usesFrame_performAll (e : Emission) (steps : List Step) :
    (e.performAll steps).2.usesFrame = true ↔
      e.usesFrame = true ∨
        ∃ given ∈ steps.zip (e.performAll steps).1, given.1.PlacesInFrame given.2 := by
  induction steps generalizing e with
  | nil => simp [performAll]
  | cons step rest ih =>
    have hzip : (step :: rest).zip (e.performAll (step :: rest)).1 =
        (step, (e.perform step).1) :: rest.zip ((e.perform step).2.performAll rest).1 := rfl
    simp only [hzip, List.mem_cons, exists_eq_or_imp]
    rw [← or_assoc, ← usesFrame_perform]
    exact ih (e.perform step).2

theorem perform_of_isHeader {step : Step} {c : Component} (h : c.isHeader = true) (level : Int)
    (hstep : step = .widget c level ∨ step = .component c level) :
    (e.perform step).1 = .ok none := by
  rcases hstep with rfl | rfl
  · simp only [perform, widget_of_isHeader h, Except.map, Option.map_none]
  · simp only [perform, component, placed_of_isHeader h, Except.map, Option.map_none]

/-- What any steps give, failing ones among them. The flag is on in the end exactly if one
of the steps has placed a component of which none of the four responsive values is
defined; a step never switches it off, and one that fails, that gives no code or that
only emits leaves it. Each step gives, or fails with, what it does on a new run that has
seen only the registrations before it, and a header component has no code, whatever was
registered. -/
theorem usesFrame_and_outcomes (steps : List Step) :
    ((start.performAll steps).2.usesFrame = true ↔
      ∃ c level code,
        (Step.component c level, .ok (some code)) ∈ steps.zip (start.performAll steps).1 ∧
          ∀ name ∈ Component.placeFractions, c.fraction? name = .ok none) ∧
    (∀ step, ((start.performAll steps).2.usesFrame = true →
        ((start.performAll steps).2.perform step).2.usesFrame = true) ∧
      ((∀ c level code, step = .component c level →
          ((start.performAll steps).2.perform step).1 ≠ .ok (some code)) →
        ((start.performAll steps).2.perform step).2.usesFrame =
          (start.performAll steps).2.usesFrame)) ∧
    (∀ i, (start.performAll steps).1[i]? = steps[i]?.map fun step =>
      ((start.performAll ((steps.take i).filter Step.isRegistration)).2.perform step).1) ∧
    ∀ (i : Nat) (c : Component) (level : Int), c.isHeader = true →
      steps[i]? = some (.widget c level) ∨ steps[i]? = some (.component c level) →
        (start.performAll steps).1[i]? = some (.ok none) := by
  refine ⟨?_, fun step => ⟨fun h => ?_, fun h => ?_⟩, fun i => ?_, fun i c level hheader hi => ?_⟩
  · rw [usesFrame_performAll]
    constructor
    · rintro (hstart | ⟨⟨_, _⟩, hmem, c, level, code, rfl, rfl, hframe⟩)
      · cases hstart
      · exact ⟨c, level, code, hmem, hframe⟩
    · rintro ⟨c, level, code, hmem, hframe⟩
      exact .inr ⟨_, hmem, c, level, code, rfl, rfl, hframe⟩
  · exact (usesFrame_perform _ step).2 (.inl h)
  · rw [Bool.eq_iff_iff, usesFrame_perform]
    refine or_iff_left ?_
    rintro ⟨c, level, code, hstep, hcode, -⟩
    exact h c level code hstep hcode
  · rw [getElem?_performAll]
    have hemitters := emitters_performAll_filter (e := start) rfl (steps.take i)
    exact congrArg (steps[i]?.map ·) (funext fun step => perform_congr hemitters step)
  · rw [getElem?_performAll]
    rcases hi with hi | hi
    · rw [hi]
      exact congrArg some (perform_of_isHeader hheader level (.inl rfl))
    · rw [hi]
      exact congrArg some (perform_of_isHeader hheader level (.inr rfl))

/-- A component of a type that needs an emitter of its own. -/
def badge : Component :=
  .ofFields [("type", .string "Badge")]

/-- An emitter for a header type and a header component, a heading that fails, and a
component with an emitter that is registered right before it. -/
def mixedSteps : List Step := [
  .register "AppBar" fun _ => .ok "Bar()",
  .component (.ofFields [("type", .string "AppBar")]) 0,
  .component (.ofFields [("type", .string "Heading"),
    ("props", .object [("level", .number (.infinite false))])]) 0,
  .register "Badge" fun _ => .ok "Badge()",
  .component badge 0]

/-- What the registered emitter writes, in its place. -/
def badgeCode : String :=
  "Positioned(\n" ++
  "  left: 0.0 * sx,\n" ++
  "  top: 0.0 * sy,\n" ++
  "  width: 100.0 * sx,\n" ++
  "  height: 30.0 * sy,\n" ++
  "  child: Badge(),\n" ++
  ")"

theorem usesFrame_and_outcomes_mixedSteps :
    (start.performAll mixedSteps).1[1]? = some (.ok none) ∧
    (start.performAll mixedSteps).1[2]? = some (.error .infiniteInteger) ∧
    (start.performAll mixedSteps).1[4]? = some (.ok (some badgeCode)) ∧
    (start.performAll mixedSteps).2.usesFrame = true := by
  obtain ⟨hflag, -, houtcomes, hheader⟩ := usesFrame_and_outcomes mixedSteps
  have hregistered : ((start.performAll ((mixedSteps.take 4).filter Step.isRegistration)).2.perform
      (.component badge 0)).1.toOption = some (some badgeCode) := by
    decide +kernel
  have hbadge : (start.performAll mixedSteps).1[4]? = some (.ok (some badgeCode)) :=
    (houtcomes 4).trans (congrArg some (eq_ok_of_toOption hregistered))
  refine ⟨hheader 1 _ 0 (by decide) (.inr rfl), (houtcomes 2).trans rfl, hbadge, hflag.2 ?_⟩
  refine ⟨badge, 0, badgeCode, ?_, fun name hname => rfl⟩
  exact List.mem_of_getElem? (i := 4) (List.getElem?_zip_eq_some.2 ⟨rfl, hbadge⟩)

end Emission

end Maquette
