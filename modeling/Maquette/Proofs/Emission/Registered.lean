import Maquette.Proofs.Emission.Run
import Maquette.Proofs.Text.Trimmed

/-!
# Registered emitters

An emitter is kept under the lower-case form of the name it was registered for, and a
component asks for the key of its type, which is trimmed as well. So a registration has
an effect on the components whose type has the key of its name, and has it only if there
is no white space around that name. What is registered later under other keys does not
undo it, and nothing else that a run is asked for has any influence on emitters.
-/

namespace Maquette

namespace Emission

variable {e e' : Emission} {c : Component}

theorem emitterFor_register (e : Emission) (type : String) (emitter : Emitter) (c : Component) :
    (e.register type emitter).emitterFor c =
      if Text.trim type.toList = type.toList ∧ Text.key type = c.typeKey then emitter
      else e.emitterFor c := by
  have hkey : c.typeKey = String.ofList (Text.lower type.toList) ↔
      Text.trim type.toList = type.toList ∧ Text.key type = c.typeKey :=
    eq_comm.trans Text.ofList_lower_eq_key_iff
  simp only [← hkey, emitterFor, register, List.lookup_cons]
  split
  · next h => rw [if_pos (eq_of_beq h), Option.getD_some]
  · next h => rw [if_neg (ne_of_beq_false h)]

theorem emitterFor_congr (h : e.emitters = e'.emitters) (c : Component) :
    e.emitterFor c = e'.emitterFor c := by
  rw [emitterFor, h, emitterFor]

theorem emitterFor_after (e : Emission)
    (outcome : Except NumberError (Option (String × Bool))) (c : Component) :
    (e.after outcome).emitterFor c = e.emitterFor c :=
  emitterFor_congr (e.emitters_after outcome) c

/-- Of all steps only a registration under the key of its type matters to a component. -/
theorem emitterFor_perform {step : Step}
    (h : ∀ name emitter, step = .register name emitter → Text.key name ≠ c.typeKey) :
    (e.perform step).2.emitterFor c = e.emitterFor c := by
  cases step with
  | register name emitter =>
    rw [perform, emitterFor_register, if_neg]
    exact fun hname => h name emitter rfl hname.2
  | widget c' level => rfl
  | component c' level => rw [perform, component, emitterFor_after]

theorem emitterFor_performAll {steps : List Step}
    (h : ∀ name emitter, .register name emitter ∈ steps → Text.key name ≠ c.typeKey) :
    (e.performAll steps).2.emitterFor c = e.emitterFor c := by
  induction steps generalizing e with
  | nil => rfl
  | cons step rest ih =>
    calc ((e.perform step).2.performAll rest).2.emitterFor c
      _ = (e.perform step).2.emitterFor c :=
        ih fun name emitter hmem => h name emitter (List.mem_cons_of_mem _ hmem)
      _ = e.emitterFor c :=
        emitterFor_perform fun name emitter hstep => h name emitter (hstep ▸ List.mem_cons_self)

theorem emitterFor_perform_congr (h : e.emitterFor c = e'.emitterFor c) (step : Step) :
    (e.perform step).2.emitterFor c = (e'.perform step).2.emitterFor c := by
  cases step with
  | register name emitter =>
    rw [perform, emitterFor_register, perform, emitterFor_register, h]
  | widget c' level => exact h
  | component c' level =>
    rw [perform, component, emitterFor_after, perform, component, emitterFor_after, h]

/-- Runs with one emitter for a component still have one after the same steps. -/
theorem emitterFor_performAll_congr (h : e.emitterFor c = e'.emitterFor c) (steps : List Step) :
    (e.performAll steps).2.emitterFor c = (e'.performAll steps).2.emitterFor c := by
  induction steps generalizing e e' with
  | nil => exact h
  | cons step rest ih => exact ih (emitterFor_perform_congr h step)

theorem widget_congr (h : e.emitterFor c = e'.emitterFor c) (level : Int) :
    e.widget c level = e'.widget c level := by
  rw [widget, h, widget]

theorem placed_of_emitterFor_eq (h : e.emitterFor c = e'.emitterFor c) (level : Int) :
    e.placed c level = e'.placed c level := by
  rw [placed, widget_congr h, placed]

theorem widget_eq_map {emitter : Emitter} (h : e.emitterFor c = emitter)
    (hheader : c.typeKey ∉ Component.headerTypes) (level : Int) :
    e.widget c level =
      (emitter c).map fun code => some (Text.indent (Text.levelMargin level) code.toList) := by
  have hplaced : c.isHeader = false := by simpa [Component.isHeader] using hheader
  rw [widget, if_neg (Bool.eq_false_iff.1 hplaced), h]
  cases emitter c <;> rfl

/-- An emitter that was registered for a type is the one in use for it, whatever follows
except for another registration under its key, if there is no white space around the name
of the type. Components of other types are emitted and placed as without the
registration, and so are all components if there is white space around the name. -/
theorem widget_registered (e : Emission) {type : String}
    (hheader : Text.key type ∉ Component.headerTypes) (emitter : Emitter) {rest : List Step}
    (hrest : ∀ name other, .register name other ∈ rest → Text.key name ≠ Text.key type) :
    let run := ((e.register type emitter).performAll rest).2
    let without := (e.performAll rest).2
    (Text.trim type.toList = type.toList → ∀ c level, c.typeKey = Text.key type →
        run.widget c level = (emitter c).map fun code =>
          some (Text.indent (Text.levelMargin level) code.toList)) ∧
      ∀ c level, c.typeKey ≠ Text.key type ∨ Text.trim type.toList ≠ type.toList →
        run.widget c level = without.widget c level ∧
          run.placed c level = without.placed c level := by
  intro run without
  refine ⟨fun htrim c level hkey => ?_, fun c level hother => ?_⟩
  · have hemitter : run.emitterFor c = emitter :=
      calc run.emitterFor c
        _ = (e.register type emitter).emitterFor c := emitterFor_performAll (hkey ▸ hrest)
        _ = emitter := (e.emitterFor_register type emitter c).trans (if_pos ⟨htrim, hkey.symm⟩)
    exact widget_eq_map hemitter (hkey ▸ hheader) level
  · have hregister : (e.register type emitter).emitterFor c = e.emitterFor c := by
      refine (e.emitterFor_register type emitter c).trans (if_neg ?_)
      rintro ⟨htrim, hkey⟩
      exact hother.elim (fun hne => hne hkey.symm) fun hpadded => hpadded htrim
    have hemitter := emitterFor_performAll_congr hregister rest
    exact ⟨widget_congr hemitter level, placed_of_emitterFor_eq hemitter level⟩

/-- A component with white space around the name of its type. -/
def paddedBadge : Component :=
  .ofFields [("type", .string " BADGE ")]

theorem widget_registered_badge :
    (((start.register "Badge" fun _ => .ok "Badge()").performAll
        [.register "Text" fun _ => .ok "Label()", .component paddedBadge 0]).2.widget
      paddedBadge 1) = .ok (some "  Badge()".toList) := by
  have hrest : ∀ name other, .register name other ∈
      [Step.register "Text" fun _ => .ok "Label()", .component paddedBadge 0] →
        Text.key name ≠ Text.key "Badge" := by
    intro name other hmem
    simp only [List.mem_cons, Step.register.injEq, reduceCtorEq, List.not_mem_nil, or_false]
      at hmem
    rw [hmem.1]
    decide
  have hused := (widget_registered start (by decide) (fun _ => .ok "Badge()") hrest).1 (by decide)
  exact hused paddedBadge 1 (by decide)

/-- An emitter that is registered for a name with white space around it is not used for
components of the very same type; they still get the placeholder. -/
theorem widget_paddedBadge_ne :
    Text.key " BADGE " ∉ Component.headerTypes ∧ paddedBadge.typeKey = Text.key " BADGE " ∧
      (start.register " BADGE " fun _ => .ok "Badge()").widget paddedBadge 0 ≠
        .ok (some (Text.indent (Text.levelMargin 0) "Badge()".toList)) := by
  refine ⟨by decide, rfl, ?_⟩
  have hunused : (start.register " BADGE " fun _ => .ok "Badge()").emitterFor paddedBadge =
      Emitter.placeholder :=
    (start.emitterFor_register _ _ paddedBadge).trans (if_neg fun h => absurd h.1 (by decide))
  rw [widget_eq_map hunused (by decide)]
  decide

end Emission

end Maquette
