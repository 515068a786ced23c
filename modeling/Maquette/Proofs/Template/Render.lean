import Maquette.Template.Basic
import Maquette.Proofs.Outcome

/-!
# Filling templates

A template of texts and slots is always filled, since a slot without a value is empty,
and so is a repetition over pairs of texts whose body is such a template.

What a template is filled to depends only on the values of the names that it takes from
outside. The names of a repeated part have their values from the items, so they do not
count among them.
-/

namespace Maquette

namespace Template

variable {escape : Bool} {context : Fields} {rest : Template} {text : String}

theorem isOk_render_nil : (render escape [] context).isOk = true := by
  rw [render]
  rfl

theorem isOk_render_text (content : String) :
    (render escape (.text content :: rest) context).isOk = (render escape rest context).isOk := by
  rw [render, isOk_bind rfl fun _ => isOk_pure _, Bool.and_true]

theorem isOk_render_slot (name : String) :
    (render escape (.slot name :: rest) context).isOk = (render escape rest context).isOk := by
  rw [render, isOk_bind rfl fun _ => isOk_pure _, Bool.and_true]

/-- A template of texts and slots. -/
def isFlat (t : Template) : Bool :=
  t.all fun
    | .text _ => true
    | .slot _ => true
    | _ => false

theorem isOk_render_of_isFlat {t : Template} (h : isFlat t = true) :
    (render escape t context).isOk = true := by
  induction t with
  | nil => exact isOk_render_nil
  | cons piece t ih =>
    rw [isFlat, List.all_cons, Bool.and_eq_true] at h
    cases piece with
    | text content => rw [isOk_render_text, ih h.2]
    | slot name => rw [isOk_render_slot, ih h.2]
    | member path => cases h.1
    | each names source body => cases h.1

/-- A repetition over pairs is filled if its body is. -/
theorem isOk_repeated (first second : String) {body : Fields → Except TemplateError String}
    (hbody : ∀ inner, (body inner).isOk = true) (pairs : List (String × String)) :
    (repeated [first, second] context body
      (pairs.map fun (a, b) => .array [.string a, .string b])).isOk = true := by
  induction pairs with
  | nil => rfl
  | cons pair pairs ih =>
    obtain ⟨a, b⟩ := pair
    have hbind : bind [first, second] (.array [.string a, .string b]) context =
        .ok ([(second, .string b), (first, .string a)] ++ context) := rfl
    obtain ⟨text, htext⟩ :=
      (exists_eq_ok_iff _).2 (hbody ([(second, .string b), (first, .string a)] ++ context))
    obtain ⟨more, hmore⟩ := (exists_eq_ok_iff _).2 ih
    rw [List.map_cons, repeated, hbind]
    simp only [Bind.bind, Except.bind, htext, hmore]
    rfl

theorem isOk_render_each {first second source : String} {body : Template}
    {pairs : List (String × String)}
    (hsource : valueOf? context source =
      some (.array (pairs.map fun (a, b) => .array [.string a, .string b])))
    (hbody : isFlat body = true) :
    (render escape (.each [first, second] source body :: rest) context).isOk =
      (render escape rest context).isOk := by
  have hitems : itemsOf context source =
      .ok (pairs.map fun (a, b) => .array [.string a, .string b]) := by
    rw [itemsOf, hsource]
    rfl
  have hrepeated : (repeated [first, second] context (fun inner => render escape body inner)
      (pairs.map fun (a, b) => .array [.string a, .string b])).isOk = true :=
    isOk_repeated first second (fun _ => isOk_render_of_isFlat hbody) pairs
  obtain ⟨text, htext⟩ := (exists_eq_ok_iff _).2 hrepeated
  rw [render, hitems]
  simp only [Bind.bind, Except.bind, htext]
  cases render escape rest context <;> rfl

theorem exists_of_render_text {content : String}
    (h : render escape (.text content :: rest) context = .ok text) :
    ∃ more, render escape rest context = .ok more ∧ text = content ++ more := by
  rw [render] at h
  obtain ⟨more, hmore, h⟩ := exists_of_bind_eq_ok h
  exact ⟨more, hmore, (Except.ok.inj h).symm⟩

theorem exists_of_render_slot {name : String}
    (h : render escape (.slot name :: rest) context = .ok text) :
    ∃ more, render escape rest context = .ok more ∧
      text = slotText escape context name ++ more := by
  rw [render] at h
  obtain ⟨more, hmore, h⟩ := exists_of_bind_eq_ok h
  exact ⟨more, hmore, (Except.ok.inj h).symm⟩

/-- The names that a template takes from outside. A repeated part has its own names. -/
def outerNames : Template → List String
  | [] => []
  | .text _ :: rest => outerNames rest
  | .slot name :: rest => name :: outerNames rest
  | .member path :: rest => path.take 1 ++ outerNames rest
  | .each names source body :: rest =>
    source :: ((outerNames body).filter (!names.contains ·) ++ outerNames rest)

theorem valueOf?_append (bound context : Fields) (name : String) :
    valueOf? (bound ++ context) name = (List.lookup name bound).or (valueOf? context name) := by
  unfold valueOf?
  rw [List.lookup_append]
  cases List.lookup name bound with
  | none => rw [Option.none_or, Option.none_or]
  | some value => rfl

theorem isSome_lookup_zip {names : List String} {parts : List Json}
    (h : parts.length = names.length) {name : String} (hname : name ∈ names) :
    (List.lookup name (names.zip parts).reverse).isSome = true := by
  rw [← List.map_fst_zip (Nat.le_of_eq h.symm)] at hname
  obtain ⟨pair, hpair, rfl⟩ := List.mem_map.1 hname
  rw [Option.isSome_iff_ne_none, ne_eq, List.lookup_eq_none_iff]
  intro hnone
  simpa using hnone pair (List.mem_reverse.2 hpair)

/-- An item gives values to all names of a repetition, or cannot be taken apart in any
context. -/
theorem exists_bind_eq (names : List String) (item : Json) :
    (∃ bound : Fields, (∀ name ∈ names, (List.lookup name bound).isSome = true) ∧
      ∀ context, bind names item context = .ok (bound ++ context)) ∨
    ∃ error, ∀ context, bind names item context = .error error := by
  unfold bind
  split
  · next name =>
    refine .inl ⟨[(name, item)], fun other hother => ?_, fun context => rfl⟩
    simp [List.mem_singleton.1 hother]
  · cases hparts : parts? item with
    | none => exact .inr ⟨_, fun context => rfl⟩
    | some parts =>
      by_cases hlength : parts.length = names.length
      · exact .inl ⟨_, fun name hname => isSome_lookup_zip hlength hname,
          fun context => if_pos hlength⟩
      · exact .inr ⟨_, fun context => if_neg hlength⟩

theorem repeated_congr {context context' : Fields} {names : List String}
    {body : Fields → Except TemplateError String}
    (hbody : ∀ bound : Fields, (∀ name ∈ names, (List.lookup name bound).isSome = true) →
      body (bound ++ context) = body (bound ++ context')) (items : List Json) :
    repeated names context body items = repeated names context' body items := by
  induction items with
  | nil => rfl
  | cons item items ih =>
    rw [repeated, repeated, ih]
    rcases exists_bind_eq names item with ⟨bound, hbound, hbind⟩ | ⟨error, hbind⟩
    · simp only [hbind, Bind.bind, Except.bind, hbody bound hbound]
    · simp only [hbind, Bind.bind, Except.bind]

/-- What a template is filled to depends on nothing but the values of the names that it
takes from outside. -/
theorem render_congr : ∀ (t : Template) {context context' : Fields},
    (∀ name ∈ outerNames t, valueOf? context name = valueOf? context' name) →
      render escape t context = render escape t context'
  | [], _, _, _ => by rw [render, render]
  | .text content :: rest, _, _, h => by
    rw [outerNames] at h
    rw [render, render, render_congr rest h]
  | .slot name :: rest, _, _, h => by
    rw [outerNames] at h
    have hrest := render_congr rest fun other hother => h other (List.mem_cons_of_mem _ hother)
    rw [render, render, hrest, slotText, slotText, h name List.mem_cons_self]
  | .member [] :: rest, _, _, h => by
    rw [outerNames] at h
    rw [render, render, render_congr rest h, memberOf?, memberOf?]
  | .member (name :: path) :: rest, _, _, h => by
    rw [outerNames] at h
    have hrest := render_congr rest fun other hother => h other (List.mem_cons_of_mem _ hother)
    rw [render, render, hrest, memberOf?, memberOf?, h name List.mem_cons_self]
  | .each names source body :: rest, context, context', h => by
    rw [outerNames, List.forall_mem_cons, List.forall_mem_append] at h
    obtain ⟨hsource, hinner, hrest⟩ := h
    have hitems : itemsOf context source = itemsOf context' source := by
      rw [itemsOf, itemsOf, hsource]
    have hrepeated (items : List Json) :
        repeated names context (render escape body) items =
          repeated names context' (render escape body) items := by
      refine repeated_congr (fun bound hbound => ?_) items
      refine render_congr body fun name hname => ?_
      rw [valueOf?_append, valueOf?_append]
      -- a name of the repetition has its value from the item
      by_cases hnames : name ∈ names
      · obtain ⟨value, hvalue⟩ := Option.isSome_iff_exists.1 (hbound name hnames)
        rw [hvalue, Option.some_or, Option.some_or]
      · rw [hinner name (List.mem_filter.2 ⟨hname, by simpa using hnames⟩)]
    rw [render, render, hitems, render_congr rest hrest]
    simp only [hrepeated]

end Template

end Maquette
