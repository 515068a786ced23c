import Maquette.Proofs.Document.Readable

/-!
# Numbers that are refused

Why a screen does not compile. Every reader of numbers fails in one way, for an integer
past the largest double, and reading the level of a heading fails for the two kinds of
numbers that have no integer part. So the reason of a failure can be pointed at: it is a
value of the screen, in a place where the compiler reads a number or a level.

`Refused` has both sides of this. What a screen fails for is refused in it, and a screen
in which nothing is refused does not fail.
-/

namespace Maquette

/-- Of the values that are read as numbers and those that are read as levels, one is
refused for this reason. -/
def Refused (values levels : List Json) : NumberError → Prop
  | .integerTooLarge => ∃ n : Int, .integer n ∈ values ∧ Binary64.integerLimit ≤ n.natAbs
  | .infiniteInteger => ∃ negative : Bool, .number (.infinite negative) ∈ levels
  | .notANumberInteger => .number .nan ∈ levels
  | .notNumeric _ => False
  | .wrongType _ => False

theorem Refused.mono {values values' levels levels' : List Json} (hvalues : values ⊆ values')
    (hlevels : levels ⊆ levels') (e : NumberError) (h : Refused values levels e) :
    Refused values' levels' e := by
  cases e with
  | integerTooLarge =>
    obtain ⟨n, hmem, hn⟩ := h
    exact ⟨n, hvalues hmem, hn⟩
  | infiniteInteger =>
    obtain ⟨negative, hmem⟩ := h
    exact ⟨negative, hlevels hmem⟩
  | notANumberInteger => exact hlevels h
  | notNumeric text => exact h
  | wrongType typeName => exact h

/-- Some value is refused exactly if not all of them can be read. -/
theorem exists_refused_iff {values levels : List Json} :
    (∃ e, Refused values levels e) ↔
      (levels.all Heading.isLevel && values.all Json.isReadable) = false := by
  rw [Bool.and_eq_false_iff, List.all_eq_false, List.all_eq_false]
  constructor
  · rintro ⟨e, h⟩
    cases e with
    | integerTooLarge =>
      obtain ⟨n, hmem, hn⟩ := h
      exact .inr ⟨_, hmem, by simpa [Json.isReadable] using hn⟩
    | infiniteInteger =>
      obtain ⟨negative, hmem⟩ := h
      exact .inl ⟨_, hmem, Bool.false_ne_true⟩
    | notANumberInteger => exact .inl ⟨_, h, Bool.false_ne_true⟩
    | notNumeric text => exact h.elim
    | wrongType typeName => exact h.elim
  · rintro (⟨level, hmem, hlevel⟩ | ⟨value, hmem, hvalue⟩)
    · cases level with
      | number x =>
        cases x with
        | finite negative magnitude => exact (hlevel rfl).elim
        | infinite negative => exact ⟨.infiniteInteger, negative, hmem⟩
        | nan => exact ⟨.notANumberInteger, hmem⟩
      | _ => exact (hlevel rfl).elim
    · cases value with
      | integer n => exact ⟨.integerTooLarge, n, hmem, by simpa [Json.isReadable] using hvalue⟩
      | _ => exact (hvalue rfl).elim

/-- The step fails only for the size of an integer. -/
abbrev FailsForSize {α : Type} (x : Except NumberError α) : Prop :=
  FailsOnly (· = .integerTooLarge) x

/-- A step that fails for the size of an integer, and exactly if some value cannot be read,
fails for one of the values. -/
theorem FailsForSize.refused {α : Type} {x : Except NumberError α} {values : List Json}
    (h : FailsForSize x) (hok : x.isOk = values.all Json.isReadable) :
    FailsOnly (Refused values []) x := by
  intro e he
  obtain rfl := h e he
  rw [he, isOk_error] at hok
  -- what is refused is a value, since there are no levels
  obtain ⟨e', hrefused⟩ : ∃ e', Refused values [] e' := exists_refused_iff.2 hok.symm
  cases e' with
  | integerTooLarge => exact hrefused
  | infiniteInteger => exact absurd hrefused.choose_spec List.not_mem_nil
  | notANumberInteger => exact absurd hrefused List.not_mem_nil
  | notNumeric text => exact hrefused.elim
  | wrongType typeName => exact hrefused.elim

/-! ## Readers of numbers -/

namespace Json

theorem failsForSize_ofIntChecked (n : Int) : FailsForSize (Binary64.ofIntChecked n) := by
  unfold Binary64.ofIntChecked
  split
  · exact failsOnly_ok _
  · exact failsOnly_error rfl

theorem failsForSize_number? (value : Json) : FailsForSize value.number? := by
  cases value with
  | integer n =>
    rw [number?]
    exact failsOnly_map some (failsForSize_ofIntChecked n)
  | _ => exact failsOnly_ok _

theorem failsForSize_numberOr (value : Json) (default : Binary64) :
    FailsForSize (value.numberOr default) :=
  failsOnly_bind value.failsForSize_number? fun _ => failsOnly_ok _

theorem failsForSize_numberAtLeast (value : Json) (default floor : Binary64) :
    FailsForSize (value.numberAtLeast default floor) :=
  failsOnly_bind (value.failsForSize_numberOr default) fun _ => failsOnly_ok _

theorem failsForSize_isWeight (value : Json) (weights : List String) :
    FailsForSize (value.isWeight weights) := by
  cases value with
  | integer n => exact failsOnly_bind (integer n).failsForSize_number? fun _ => failsOnly_ok _
  | number x => exact failsOnly_bind (number x).failsForSize_number? fun _ => failsOnly_ok _
  | _ => exact failsOnly_ok _

end Json

namespace Component

theorem failsForSize_fraction? (c : Component) (name : String) :
    FailsForSize (c.fraction? name) :=
  Json.failsForSize_number? _

theorem failsForSize_fontSize (c : Component) (points : Binary64) :
    FailsForSize (c.fontSize points) := by
  refine failsOnly_bind (c.failsForSize_fraction? "fontPercent") fun fraction => ?_
  cases fraction with
  | none => exact failsOnly_ok _
  | some fraction => exact failsOnly_ok _

theorem failsForSize_hasResponsiveGeometry (c : Component) :
    FailsForSize c.hasResponsiveGeometry := by
  unfold hasResponsiveGeometry
  refine failsOnly_bind (c.failsForSize_fraction? _) fun x => ?_
  split
  · exact failsOnly_ok _
  refine failsOnly_bind (c.failsForSize_fraction? _) fun y => ?_
  split
  · exact failsOnly_ok _
  refine failsOnly_bind (c.failsForSize_fraction? _) fun width => ?_
  split
  · exact failsOnly_ok _
  exact failsOnly_bind (c.failsForSize_fraction? _) fun height => failsOnly_ok _

end Component

theorem Geometry.failsForSize_ofComponent (c : Component) : FailsForSize (ofComponent c) := by
  unfold ofComponent
  refine failsOnly_bind (Json.failsForSize_numberOr _ _) fun x => ?_
  refine failsOnly_bind (Json.failsForSize_numberOr _ _) fun y => ?_
  refine failsOnly_bind (Json.failsForSize_numberOr _ _) fun width => ?_
  refine failsOnly_bind (Json.failsForSize_numberOr _ _) fun height => ?_
  refine failsOnly_bind c.failsForSize_hasResponsiveGeometry fun responsive => ?_
  split
  · refine failsOnly_bind (c.failsForSize_fraction? _) fun left => ?_
    refine failsOnly_bind (c.failsForSize_fraction? _) fun top => ?_
    refine failsOnly_bind (c.failsForSize_fraction? _) fun across => ?_
    exact failsOnly_bind (c.failsForSize_fraction? _) fun down => failsOnly_ok _
  · exact failsOnly_ok _

/-! ## Widgets -/

theorem Label.failsForSize_ofComponent (c : Component) : FailsForSize (ofComponent c) :=
  failsOnly_bind (Json.failsForSize_numberAtLeast _ _ _) fun _ =>
    failsOnly_bind (Json.failsForSize_isWeight _ _) fun _ =>
    failsOnly_bind (c.failsForSize_fontSize _) fun _ => failsOnly_ok _

namespace Button

theorem failsForSize_amount (value : Json) (default : Binary64) :
    FailsForSize (amount value default) := by
  unfold amount
  split
  · exact failsOnly_ok _
  · exact value.failsForSize_numberAtLeast 0 0

theorem failsForSize_paddingOf (props : Fields) : FailsForSize (paddingOf props) := by
  unfold paddingOf
  split
  · exact failsOnly_bind (failsForSize_amount _ _) fun _ =>
      failsOnly_bind (failsForSize_amount _ _) fun _ => failsOnly_ok _
  · exact failsOnly_bind (failsForSize_amount _ _) fun _ => failsOnly_ok _

theorem failsForSize_ofComponent (c : Component) : FailsForSize (ofComponent c) :=
  failsOnly_bind (Json.failsForSize_numberAtLeast _ _ _) fun _ =>
    failsOnly_bind (Json.failsForSize_isWeight _ _) fun _ =>
    failsOnly_bind (Json.failsForSize_numberOr _ _) fun _ =>
    failsOnly_bind (Json.failsForSize_numberOr _ _) fun _ =>
    failsOnly_bind (failsForSize_paddingOf _) fun _ =>
    failsOnly_bind (c.failsForSize_fontSize _) fun _ => failsOnly_ok _

end Button

namespace Card

theorem failsForSize_titleOf (c : Component) : FailsForSize (titleOf c) := by
  unfold titleOf
  split
  · exact failsOnly_ok _
  · exact failsOnly_bind (Json.failsForSize_numberAtLeast _ _ _) fun _ =>
      failsOnly_bind (c.failsForSize_fontSize _) fun _ => failsOnly_ok _

theorem failsForSize_bodyOf (props : Fields) : FailsForSize (bodyOf props) := by
  unfold bodyOf
  split
  · exact failsOnly_ok _
  · exact failsOnly_bind (Json.failsForSize_numberAtLeast _ _ _) fun _ => failsOnly_ok _

theorem failsForSize_ofComponent (c : Component) : FailsForSize (ofComponent c) :=
  failsOnly_bind (Json.failsForSize_numberAtLeast _ _ _) fun _ =>
    failsOnly_bind (Json.failsForSize_numberOr _ _) fun _ =>
    failsOnly_bind (Json.failsForSize_numberAtLeast _ _ _) fun _ =>
    failsOnly_bind (failsForSize_titleOf c) fun _ =>
    failsOnly_bind (failsForSize_bodyOf c.props) fun _ => failsOnly_ok _

end Card

theorem IconMark.failsForSize_ofComponent (c : Component) : FailsForSize (ofComponent c) :=
  failsOnly_bind (Json.failsForSize_numberAtLeast _ _ _) fun _ => failsOnly_ok _

theorem Picture.failsForSize_ofComponent (c : Component) : FailsForSize (ofComponent c) := by
  refine failsOnly_bind (Json.failsForSize_numberOr _ _) fun radius => ?_
  split
  · exact failsOnly_ok _
  · exact failsOnly_ok _

namespace Box

theorem failsForSize_captionOf (props : Fields) : FailsForSize (captionOf props) := by
  unfold captionOf
  split
  · exact failsOnly_ok _
  · exact failsOnly_bind (Json.failsForSize_numberAtLeast _ _ _) fun _ => failsOnly_ok _

theorem failsForSize_ofComponent (c : Component) : FailsForSize (ofComponent c) :=
  failsOnly_bind (Json.failsForSize_numberOr _ _) fun _ =>
    failsOnly_bind (failsForSize_captionOf _) fun _ => failsOnly_ok _

end Box

namespace Heading

/-- A level is refused if no integer can be made of it. -/
theorem failsOnly_levelName (value : Json) :
    FailsOnly (Refused [] [value]) (levelName (Json.firstPresent [value] (.string "h1"))) := by
  have hlevel (level : Json) : FailsOnly (Refused [] [level]) (levelName level) := by
    cases level with
    | number x =>
      refine failsOnly_map _ ?_
      cases x with
      | finite negative magnitude => exact failsOnly_ok _
      | infinite negative => exact failsOnly_error ⟨negative, List.mem_singleton_self _⟩
      | nan => exact failsOnly_error (List.mem_singleton_self _)
    | _ => exact failsOnly_ok _
  cases h : value.isPresent with
  | true =>
    rw [Json.firstPresent, Json.firstPresent?, List.find?_cons_of_pos h]
    exact hlevel value
  | false =>
    rw [Json.firstPresent, Json.firstPresent?, List.find?_cons_of_neg (by simp [h])]
    exact failsOnly_ok _

theorem failsOnly_ofComponent (c : Component) :
    FailsOnly (Refused (values c) [c.props.get "level"]) (ofComponent c) := by
  have hsize (points : Binary64) : FailsOnly (Refused (values c) []) (c.fontSize points) :=
    (c.failsForSize_fontSize points).refused (by simp [values, c.isOk_fontSize])
  -- the level is read first, so of two reasons it is the one that counts
  refine failsOnly_bind ?_ fun level => ?_
  · exact (failsOnly_levelName _).mono (Refused.mono (List.nil_subset _) (List.Subset.refl _))
  · refine failsOnly_bind ?_ fun size => failsOnly_ok _
    exact (hsize _).mono (Refused.mono (List.Subset.refl _) (List.nil_subset _))

end Heading

namespace Component

/-- The values that the widget of a component reads as numbers. -/
def widgetValues (c : Component) : List Json :=
  match c.typeKey with
  | "text" => Label.values c
  | "heading" => Heading.values c
  | "button" => Button.values c
  | "card" => Card.values c
  | "icon" => IconMark.values c
  | "image" => Picture.values c
  | "container" => Box.values c
  | _ => []

/-- The values that a component reads as numbers, for its widget and for its place. -/
def numericValues (c : Component) : List Json :=
  c.widgetValues ++ c.placeValues

/-- The values that a component reads as the level of a heading. -/
def levels (c : Component) : List Json :=
  if c.typeKey = "heading" then [c.props.get "level"] else []

theorem hasReadableWidget_eq (c : Component) :
    c.hasReadableWidget = (c.levels.all Heading.isLevel && c.widgetValues.all Json.isReadable) := by
  unfold hasReadableWidget widgetValues levels
  split <;> simp_all

theorem isReadable_eq (c : Component) :
    c.isReadable = (c.levels.all Heading.isLevel && c.numericValues.all Json.isReadable) := by
  rw [isReadable, hasReadableWidget_eq, numericValues, List.all_append, Bool.and_assoc]

end Component

theorem Widget.failsOnly_ofComponent (c : Component) :
    FailsOnly (Refused c.widgetValues c.levels) (ofComponent c) := by
  have hsize {α : Type} {x : Except NumberError α} {values : List Json} (f : α → Widget)
      (hvalues : c.widgetValues = values) (h : FailsForSize x)
      (hok : x.isOk = values.all Json.isReadable) :
      FailsOnly (Refused c.widgetValues c.levels) (x.map f) := by
    rw [← hvalues] at hok
    exact failsOnly_map f <| (h.refused hok).mono <|
      Refused.mono (List.Subset.refl _) (List.nil_subset _)
  unfold ofComponent
  split
  · next h =>
    exact hsize _ (by simp [Component.widgetValues, h]) (Label.failsForSize_ofComponent c)
      (Label.isOk_ofComponent c)
  · next h =>
    have hlevel := Heading.failsOnly_ofComponent c
    exact failsOnly_map _ (by simpa [Component.widgetValues, Component.levels, h] using hlevel)
  · next h =>
    exact hsize _ (by simp [Component.widgetValues, h]) (Button.failsForSize_ofComponent c)
      (Button.isOk_ofComponent c)
  · next h =>
    exact hsize _ (by simp [Component.widgetValues, h]) (Card.failsForSize_ofComponent c)
      (Card.isOk_ofComponent c)
  · next h =>
    exact hsize _ (by simp [Component.widgetValues, h]) (IconMark.failsForSize_ofComponent c)
      (IconMark.isOk_ofComponent c)
  · next h =>
    exact hsize _ (by simp [Component.widgetValues, h]) (Picture.failsForSize_ofComponent c)
      (Picture.isOk_ofComponent c)
  · next h =>
    exact hsize _ (by simp [Component.widgetValues, h]) (Box.failsForSize_ofComponent c)
      (Box.isOk_ofComponent c)
  · exact failsOnly_ok _

theorem Component.failsOnly_reading (c : Component) :
    FailsOnly (Refused c.numericValues c.levels) c.reading := by
  refine failsOnly_bind ?_ fun w => failsOnly_bind ?_ fun g => failsOnly_ok _
  · exact (Widget.failsOnly_ofComponent c).mono
      (Refused.mono (List.subset_append_left _ _) (List.Subset.refl _))
  · have hplace : FailsOnly (Refused c.placeValues []) (Geometry.ofComponent c) :=
      (Geometry.failsForSize_ofComponent c).refused (Geometry.isOk_ofComponent c)
    exact hplace.mono (Refused.mono (List.subset_append_right _ _) (List.nil_subset _))

/-! ## Screens -/

namespace Header

theorem failsForSize_titleSizeOf (c : Component) : FailsForSize (titleSizeOf c) := by
  refine failsOnly_bind (c.failsForSize_fraction? _) fun fraction => ?_
  cases fraction with
  | some fraction => exact failsOnly_ok _
  | none =>
    refine failsOnly_bind (Json.failsForSize_number? _) fun points => ?_
    cases points with
    | some points => exact failsOnly_ok _
    | none => exact failsOnly_bind (Json.failsForSize_numberOr _ _) fun _ => failsOnly_ok _

theorem failsForSize_ofComponent (appName : Json) (c : Component) :
    FailsForSize (ofComponent appName c) :=
  failsOnly_bind (failsForSize_titleSizeOf c) fun _ =>
    failsOnly_bind (Json.failsForSize_numberAtLeast _ _ _) fun _ => failsOnly_ok _

end Header

namespace Screen

/-- The values that are read as numbers when a screen is compiled: those of its first
header component, and those of the components on its stack. -/
def numericValues (s : Screen) : List Json :=
  let arrangement := Arrangement.ofComponents s.components
  arrangement.headers.head?.toList.flatMap Header.values ++
    arrangement.placed.flatMap Component.numericValues

/-- The values that are read as the levels of headings when a screen is compiled. -/
def levels (s : Screen) : List Json :=
  (Arrangement.ofComponents s.components).placed.flatMap Component.levels

/-- Compiling the screen comes upon a value that is refused for this reason. -/
def Refuses (s : Screen) (e : NumberError) : Prop :=
  Refused s.numericValues s.levels e

theorem isReadable_eq (s : Screen) :
    s.isReadable = (s.levels.all Heading.isLevel && s.numericValues.all Json.isReadable) := by
  have hheader : (Arrangement.ofComponents s.components).headers.head?.all
        (fun c => (Header.values c).all Json.isReadable) =
      ((Arrangement.ofComponents s.components).headers.head?.toList.flatMap Header.values).all
        Json.isReadable := by
    cases (Arrangement.ofComponents s.components).headers.head? <;> simp
  have hplaced (placed : List Component) : placed.all Component.isReadable =
      ((placed.flatMap Component.levels).all Heading.isLevel &&
        (placed.flatMap Component.numericValues).all Json.isReadable) := by
    induction placed with
    | nil => rfl
    | cons c rest ih =>
      rw [List.all_cons, ih, c.isReadable_eq, List.flatMap_cons, List.flatMap_cons,
        List.all_append, List.all_append]
      simp only [Bool.and_assoc, Bool.and_left_comm]
  unfold isReadable levels numericValues
  dsimp only
  rw [hheader, hplaced, List.all_append]
  exact Bool.and_left_comm _ _ _

/-- Nothing is refused in a screen exactly if it can be read. -/
theorem exists_refuses_iff (s : Screen) : (∃ e, s.Refuses e) ↔ s.isReadable = false := by
  rw [isReadable_eq]
  exact exists_refused_iff

end Screen

namespace Document

/-- A screen that does not compile has a value that is refused for the reason of the
failure. -/
theorem failsOnly_ofScreen (appName : Json) (screen : Screen) :
    FailsOnly screen.Refuses (ofScreen appName screen) := by
  cases h : screen.components.isEmpty with
  | true =>
    rw [ofScreen, if_pos h]
    exact failsOnly_ok _
  | false =>
    rw [ofScreen_of_components appName h]
    refine failsOnly_bind ?_ fun header => failsOnly_bind ?_ fun read => failsOnly_ok _
    · unfold Arrangement.header?
      cases hheaders : (Arrangement.ofComponents screen.components).headers with
      | nil => exact failsOnly_ok _
      | cons first rest =>
        have hfirst : FailsOnly (Refused (Header.values first) [])
            (Header.ofComponent appName first) :=
          (Header.failsForSize_ofComponent appName first).refused
            (Header.isOk_ofComponent appName first)
        refine failsOnly_map _ (hfirst.mono (Refused.mono ?_ (List.nil_subset _)))
        simp [Screen.numericValues, hheaders]
    · refine failsOnly_mapM fun c hc => c.failsOnly_reading.mono (Refused.mono ?_ ?_)
      · intro value hvalue
        exact List.mem_append_right _ (List.mem_flatMap.2 ⟨c, hc, hvalue⟩)
      · intro level hlevel
        exact List.mem_flatMap.2 ⟨c, hc, hlevel⟩

end Document

end Maquette
