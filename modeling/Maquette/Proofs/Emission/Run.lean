import Maquette.Emission

/-!
# A run is its components one by one

The only thing that a run carries from one component to the next is whether the
scales of the reference frame are needed, and nothing that is emitted depends on
it. So the outcome for a component is the one in a run of its own, and a run over
a list is the list of these outcomes, with the flag switched on by any of them.
The first failure ends both in the same way.
-/

namespace Maquette

namespace Emission

theorem emitters_after (e : Emission)
    (outcome : Except NumberError (Option (String × Bool))) :
    (e.after outcome).emitters = e.emitters := by
  unfold after
  split <;> rfl

theorem placed_congr {e e' : Emission} (h : e.emitters = e'.emitters) (c : Component)
    (level : Int) : e.placed c level = e'.placed c level := by
  simp only [placed, widget, emitterFor, h]

theorem placed_after (e : Emission) (outcome : Except NumberError (Option (String × Bool)))
    (c : Component) (level : Int) : (e.after outcome).placed c level = e.placed c level :=
  placed_congr (e.emitters_after outcome) c level

theorem usesFrame_after (e : Emission) (found : Option (String × Bool)) :
    (e.after (.ok found)).usesFrame = (e.usesFrame || found.any (·.2)) := by
  cases found with
  | none => simp [after]
  | some row => rfl

theorem components_nil (level : Int) (e : Emission) :
    components level e [] = .ok ([], e) := rfl

/-- The outcomes of the components of a list, each on its own. -/
def outcomes (e : Emission) (level : Int) (cs : List Component) :
    Except NumberError (List (Option (String × Bool))) :=
  cs.mapM fun c => e.placed c level

theorem outcomes_cons (e : Emission) (level : Int) (c : Component) (cs : List Component) :
    e.outcomes level (c :: cs) = do
      let found ← e.placed c level
      let rest ← e.outcomes level cs
      return found :: rest := by
  rw [outcomes, List.mapM_cons]
  rfl

/-- A run over several components, by the outcomes of the components. -/
theorem components_eq (level : Int) (e : Emission) (cs : List Component) :
    components level e cs = (e.outcomes level cs).map fun found =>
      (found.filterMap (·.map (·.1)), ⟨e.emitters, e.usesFrame || found.any (·.any (·.2))⟩) := by
  induction cs generalizing e with
  | nil => simp [components_nil, outcomes, Except.map, pure, Except.pure]
  | cons c cs ih =>
    rw [components, outcomes_cons]
    cases hc : e.placed c level with
    | error err => rfl
    | ok found =>
      have hrest : (e.after (.ok found)).outcomes level cs = e.outcomes level cs := by
        simp only [outcomes, placed_after]
      have hrun := ih (e.after (.ok found))
      rw [hrest, emitters_after, usesFrame_after] at hrun
      cases hcs : e.outcomes level cs with
      | error err =>
        rw [hcs] at hrun
        simp [hrun, bind, Except.bind, Except.map]
      | ok rest =>
        rw [hcs] at hrun
        cases found with
        | none => simp [hrun, bind, Except.bind, Except.map, pure, Except.pure]
        | some row =>
          simp [hrun, bind, Except.bind, Except.map, pure, Except.pure, Bool.or_assoc]

end Emission

end Maquette
