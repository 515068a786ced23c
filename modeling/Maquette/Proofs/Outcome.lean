/-!
# Outcomes

Reading a component is a chain of steps, any of which may fail. Whether the chain
succeeds is one question and what it gives is another: `isOk` answers the first
without naming a single value, and a successful chain is taken apart step by step
by the lemmas that start with `exists_of`. For a chain that fails, `FailsOnly` tells
the kind of its reason from the kinds that its steps have.
-/

namespace Maquette

variable {ε α β γ : Type}

@[simp] theorem isOk_pure (a : α) : (pure a : Except ε α).isOk = true := rfl

@[simp] theorem isOk_ok (a : α) : (Except.ok a : Except ε α).isOk = true := rfl

@[simp] theorem isOk_error (e : ε) : (Except.error e : Except ε α).isOk = false := rfl

@[simp] theorem isOk_map (f : α → β) (x : Except ε α) : (x.map f).isOk = x.isOk := by
  cases x <;> rfl

/-- A step whose outcome does not matter for the success of what follows it. -/
theorem isOk_bind {x : Except ε α} {f : α → Except ε β} {b b' : Bool}
    (hx : x.isOk = b) (hf : ∀ a, (f a).isOk = b') : (x >>= f).isOk = (b && b') := by
  rw [← hx]
  cases x with
  | error e => rfl
  | ok a => exact hf a

/-- A list is read exactly when each of its members is. -/
theorem isOk_mapM (f : α → Except ε β) (l : List α) :
    (l.mapM f).isOk = l.all fun a => (f a).isOk := by
  induction l with
  | nil => rfl
  | cons a l ih =>
    rw [List.mapM_cons, List.all_cons]
    exact isOk_bind rfl fun b => by rw [isOk_bind ih fun _ => isOk_pure _, Bool.and_true]

theorem exists_of_map_eq_ok {x : Except ε α} {f : α → β} {b : β} (h : x.map f = .ok b) :
    ∃ a, x = .ok a ∧ f a = b := by
  cases x with
  | error e => cases h
  | ok a => exact ⟨a, rfl, Except.ok.inj h⟩

theorem exists_of_bind_eq_ok {x : Except ε α} {f : α → Except ε β} {b : β}
    (h : (x >>= f) = .ok b) : ∃ a, x = .ok a ∧ f a = .ok b := by
  cases x with
  | error e => cases h
  | ok a => exact ⟨a, rfl, h⟩

/-- What can be told of a member of a list, whether before or after it was read,
can be told of the whole list. -/
theorem map_eq_of_mapM_eq_ok {f : α → Except ε β} {g : β → γ} {h : α → γ}
    {l : List α} {l' : List β} (hgh : ∀ a ∈ l, ∀ b, f a = .ok b → g b = h a)
    (hl : l.mapM f = .ok l') : l'.map g = l.map h := by
  induction l generalizing l' with
  | nil =>
    obtain rfl := Except.ok.inj hl
    rfl
  | cons a l ih =>
    rw [List.mapM_cons] at hl
    obtain ⟨b, hb, hl⟩ := exists_of_bind_eq_ok hl
    obtain ⟨bs, hbs, hl⟩ := exists_of_bind_eq_ok hl
    obtain rfl := Except.ok.inj hl
    have hrest := ih (fun a ha => hgh a (List.mem_cons_of_mem _ ha)) hbs
    rw [List.map_cons, List.map_cons, hgh a List.mem_cons_self b hb, hrest]

theorem length_eq_of_mapM_eq_ok {f : α → Except ε β} {l : List α} {l' : List β}
    (hl : l.mapM f = .ok l') : l'.length = l.length := by
  have hmap := map_eq_of_mapM_eq_ok (g := fun _ => ()) (h := fun _ => ()) (fun _ _ _ _ => rfl) hl
  simpa only [List.length_map] using congrArg List.length hmap

theorem exists_of_mem_mapM {f : α → Except ε β} {l : List α} {l' : List β} {b : β}
    (hl : l.mapM f = .ok l') (hb : b ∈ l') : ∃ a ∈ l, f a = .ok b := by
  induction l generalizing l' with
  | nil =>
    obtain rfl := Except.ok.inj hl
    cases hb
  | cons a l ih =>
    rw [List.mapM_cons] at hl
    obtain ⟨first, hfirst, hl⟩ := exists_of_bind_eq_ok hl
    obtain ⟨rest, hrest, hl⟩ := exists_of_bind_eq_ok hl
    obtain rfl := Except.ok.inj hl
    rcases List.mem_cons.1 hb with rfl | hb
    · exact ⟨a, List.mem_cons_self, hfirst⟩
    · obtain ⟨a', ha', hread⟩ := ih hrest hb
      exact ⟨a', List.mem_cons_of_mem _ ha', hread⟩

theorem eq_ok_of_toOption {x : Except ε α} {a : α} (h : x.toOption = some a) : x = .ok a := by
  cases x with
  | error e => cases h
  | ok b => exact congrArg Except.ok (Option.some.inj h)

theorem exists_eq_ok_iff (x : Except ε α) : (∃ a, x = .ok a) ↔ x.isOk = true := by
  cases x with
  | error e => simp
  | ok a => simp

theorem except_map_map (f : α → β) (g : β → γ) (x : Except ε α) :
    (x.map f).map g = x.map fun a => g (f a) := by
  cases x <;> rfl

theorem except_map_bind (g : β → γ) (x : Except ε α) (f : α → Except ε β) :
    (x >>= f).map g = x >>= fun a => (f a).map g := by
  cases x <;> rfl

theorem except_bind_congr_of_map {x x' : Except ε α} {g : α → γ} {f f' : α → Except ε β}
    (hx : x.map g = x'.map g) (hf : ∀ a a', g a = g a' → f a = f' a') : x >>= f = x' >>= f' := by
  cases x with
  | error e =>
    cases x' with
    | error e' =>
      obtain rfl := Except.error.inj hx
      rfl
    | ok a' => cases hx
  | ok a =>
    cases x' with
    | error e' => cases hx
    | ok a' => exact hf a a' (Except.ok.inj hx)

theorem except_bind_congr {x : Except ε α} {f f' : α → Except ε β} (h : ∀ a, f a = f' a) :
    x >>= f = x >>= f' :=
  congrArg (x >>= ·) (funext h)

/-! ## The reasons of a failure -/

/-- If the step fails, it does so for a reason of this kind. -/
def FailsOnly (P : ε → Prop) (x : Except ε α) : Prop :=
  ∀ e, x = .error e → P e

section FailsOnly

variable {P Q : ε → Prop}

theorem failsOnly_ok (a : α) : FailsOnly P (.ok a : Except ε α) := by
  intro e h
  cases h

theorem failsOnly_error {e : ε} (h : P e) : FailsOnly P (.error e : Except ε α) := by
  intro e' he'
  obtain rfl := Except.error.inj he'
  exact h

theorem FailsOnly.mono {x : Except ε α} (h : FailsOnly P x) (hPQ : ∀ e, P e → Q e) :
    FailsOnly Q x :=
  fun e he => hPQ e (h e he)

theorem failsOnly_map {x : Except ε α} (f : α → β) (h : FailsOnly P x) :
    FailsOnly P (x.map f) := by
  cases x with
  | error e => exact failsOnly_error (h e rfl)
  | ok a => exact failsOnly_ok (f a)

theorem failsOnly_bind {x : Except ε α} {f : α → Except ε β} (hx : FailsOnly P x)
    (hf : ∀ a, FailsOnly P (f a)) : FailsOnly P (x >>= f) := by
  cases x with
  | error e => exact failsOnly_error (hx e rfl)
  | ok a => exact hf a

/-- Reading a list fails for a reason that reading one of its members has. -/
theorem failsOnly_mapM {f : α → Except ε β} {l : List α} (h : ∀ a ∈ l, FailsOnly P (f a)) :
    FailsOnly P (l.mapM f) := by
  induction l with
  | nil => exact failsOnly_ok []
  | cons a l ih =>
    rw [List.mapM_cons]
    refine failsOnly_bind (h a List.mem_cons_self) fun b => ?_
    exact failsOnly_bind (ih fun a ha => h a (List.mem_cons_of_mem _ ha)) fun _ => failsOnly_ok _

end FailsOnly

end Maquette
