import Maquette.Document
import Maquette.Proofs.Dart.Arithmetic
import Maquette.Proofs.Geometry.Frame
import Maquette.Proofs.Number.Overflow

/-!
# The value of a geometry in code

A geometry is evaluated in two places: by `evaluateIn` here, and in the app by the
code of its four extents. The code is read with the names that a document binds, the
two sides of the viewport and the two scales declared from them, and both come to the
same numbers in exact arithmetic.

The extents are finite because nothing else is ever read as a number, so each of them
has a numeral. Which of the two ways of writing a number an extent takes does not
matter: both are read back as the double.
-/

namespace Maquette

namespace Json

theorem isFinite_of_ofIntChecked {n : Int} {x : Binary64} (h : Binary64.ofIntChecked n = .ok x) :
    x.isFinite = true := by
  unfold Binary64.ofIntChecked at h
  split at h
  · next hfinite =>
    rw [← Except.ok.inj h]
    exact hfinite
  · cases h

theorem isFinite_of_leadingNumber? {s : List Char} {x : Binary64}
    (h : Number.leadingNumber? s = some x) : x.isFinite = true := by
  unfold Number.leadingNumber? at h
  split at h
  · cases h
  · split at h
    · cases h
    · split at h
      · next hfinite =>
        rw [← Option.some.inj h]
        exact hfinite
      · cases h

/-- What a value is read as is no infinity. -/
theorem isFinite_of_number? {value : Json} {found : Option Binary64}
    (h : value.number? = .ok found) : ∀ x ∈ found, x.isFinite = true := by
  intro x hx
  rw [Option.mem_def.1 hx] at h
  cases value with
  | integer n =>
    rw [number?] at h
    obtain ⟨y, hy, hyx⟩ := exists_of_map_eq_ok h
    rw [← Option.some.inj hyx]
    exact isFinite_of_ofIntChecked hy
  | number y =>
    have hy : (if y.isFinite then some y else none) = some x := Except.ok.inj h
    split at hy
    · next hfinite =>
      rw [← Option.some.inj hy]
      exact hfinite
    · cases hy
  | string text => exact isFinite_of_leadingNumber? (Except.ok.inj h)
  | null => cases Except.ok.inj h
  | bool flag => cases Except.ok.inj h
  | array items => cases Except.ok.inj h
  | object fields => cases Except.ok.inj h

theorem isFinite_of_numberOr {value : Json} {default x : Binary64}
    (hdefault : default.isFinite = true) (h : value.numberOr default = .ok x) :
    x.isFinite = true := by
  obtain ⟨found, hfound, hx⟩ := exists_of_bind_eq_ok h
  have hfinite := isFinite_of_number? hfound
  obtain rfl := Except.ok.inj hx
  cases found with
  | none => exact hdefault
  | some y => exact hfinite y rfl

end Json

namespace Geometry

/-- The values of a geometry on its four axes. -/
def extents (g : Geometry) : List Extent := [g.left, g.top, g.width, g.height]

/-- The geometry of a component is of one of the two kinds, and its numbers are
finite. -/
theorem cases_of_ofComponent {c : Component} {g : Geometry} (h : ofComponent c = .ok g) :
    ∃ x y across down : Binary64, (∀ z ∈ [x, y, across, down], z.isFinite = true) ∧
      ((∃ left top width height : Option Binary64,
        (∀ found ∈ [left, top, width, height], ∀ z ∈ found, z.isFinite = true) ∧
          g = responsive left top width height x y across down) ∨
        g = framed x y across down) := by
  obtain ⟨x, y, across, down, hpixels, hread⟩ := exists_readFrom_of_ofComponent h
  have hnumbers : ∀ z ∈ [x, y, across, down], z.isFinite = true := by
    have h0 : (0 : Binary64).isFinite = true := Binary64.isFinite_ofNat (by decide)
    have h100 : (100 : Binary64).isFinite = true := Binary64.isFinite_ofNat (by decide)
    have h30 : (30 : Binary64).isFinite = true := Binary64.isFinite_ofNat (by decide)
    simp [Json.isFinite_of_numberOr h0 hpixels.x, Json.isFinite_of_numberOr h0 hpixels.y,
      Json.isFinite_of_numberOr h100 hpixels.across, Json.isFinite_of_numberOr h30 hpixels.down]
  refine ⟨x, y, across, down, hnumbers, ?_⟩
  cases hread with
  | framed => exact .inr rfl
  | responsive _ hleft htop hwidth hheight =>
    refine .inl ⟨_, _, _, _, ?_, rfl⟩
    intro found hfound
    simp only [List.mem_cons, List.not_mem_nil, or_false] at hfound
    rcases hfound with rfl | rfl | rfl | rfl
    · exact Json.isFinite_of_number? hleft
    · exact Json.isFinite_of_number? htop
    · exact Json.isFinite_of_number? hwidth
    · exact Json.isFinite_of_number? hheight

theorem isFinite_extentOf {found : Option Binary64} {pixels : Binary64} (basis : Basis)
    (hfound : ∀ z ∈ found, z.isFinite = true) (hpixels : pixels.isFinite = true) :
    (extentOf found pixels basis).value.isFinite = true := by
  cases found with
  | none => exact hpixels
  | some z => exact hfound z rfl

theorem isFinite_of_mem_extents {c : Component} {g : Geometry} (h : ofComponent c = .ok g) :
    ∀ e ∈ g.extents, e.value.isFinite = true := by
  obtain ⟨x, y, across, down, hnumbers, hcases⟩ := cases_of_ofComponent h
  simp only [List.mem_cons, List.not_mem_nil, or_false, forall_eq_or_imp, forall_eq] at hnumbers
  obtain ⟨hx, hy, hacross, hdown⟩ := hnumbers
  intro e he
  rcases hcases with ⟨left, top, width, height, hfound, rfl⟩ | rfl
  · simp only [List.mem_cons, List.not_mem_nil, or_false, forall_eq_or_imp, forall_eq] at hfound
    obtain ⟨hleft, htop, hwidth, hheight⟩ := hfound
    simp only [extents, responsive, List.mem_cons, List.not_mem_nil, or_false] at he
    rcases he with rfl | rfl | rfl | rfl
    · exact isFinite_extentOf _ hleft hx
    · exact isFinite_extentOf _ htop hy
    · exact isFinite_extentOf _ hwidth hacross
    · exact isFinite_extentOf _ hheight hdown
  · simp only [extents, framed, List.mem_cons, List.not_mem_nil, or_false] at he
    rcases he with rfl | rfl | rfl | rfl
    · exact hx
    · exact hy
    · exact hacross
    · exact hdown

end Geometry

namespace Dart

/-- The names that a page binds to the sides of its viewport. -/
def viewport (width height : ℚ) : Scope := [
  ("constraints.maxWidth".toList, width),
  ("constraints.maxHeight".toList, height)]

/-- The names on a page that declares the scales of the reference frame. -/
def frame (width height : ℚ) : Scope :=
  (Basis.scaleDown.toList, height / Basis.referenceHeight.toRat) ::
    (Basis.scaleAcross.toList, width / Basis.referenceWidth.toRat) :: viewport width height

/-- The declaration of a scale: a side of the viewport over a number. -/
theorem declare?_scale {scope : Scope} {name side : String} {divisor : Binary64} {x : ℚ}
    (hname : ' ' ∉ name.toList) (hside : ' ' ∉ side.toList)
    (hx : factor? scope side.toList = some x) (hdivisor : divisor.isFinite = true)
    (hzero : divisor.isZero = false) :
    declare? scope (.line ("final double " ++ name ++ " = " ++ side ++ " / " ++
      divisor.fractionLiteral ++ ";")) = some ((name.toList, x / divisor.toRat) :: scope) := by
  have hspace := space_not_mem_of_all (Binary64.all_isWordChar_fractionLiteral divisor)
  refine declare?_line ?_ hname (value?_over hside hspace hx (factor?_fractionLiteral scope hdivisor)
    (Binary64.toRat_ne_zero hdivisor hzero))
  simp

/-- The declarations of a document bind the scales of the reference frame. -/
theorem declareAll?_scales (width height : ℚ) :
    declareAll? (viewport width height) Document.scales = some (frame width height) := by
  have hacross : Basis.referenceWidth.isFinite = true ∧ Basis.referenceWidth.isZero = false := by
    decide +kernel
  have hdown : Basis.referenceHeight.isFinite = true ∧ Basis.referenceHeight.isZero = false := by
    decide +kernel
  have hsx : declare? (viewport width height) (.line ("final double " ++ Basis.scaleAcross ++
      " = " ++ "constraints.maxWidth" ++ " / " ++ Basis.referenceWidth.fractionLiteral ++ ";")) =
      some ((Basis.scaleAcross.toList, width / Basis.referenceWidth.toRat) ::
        viewport width height) :=
    declare?_scale (by decide) (by decide) rfl hacross.1 hacross.2
  have hsy (scope : Scope) (hheight : factor? scope "constraints.maxHeight".toList = some height) :
      declare? scope (.line ("final double " ++ Basis.scaleDown ++
        " = " ++ "constraints.maxHeight" ++ " / " ++ Basis.referenceHeight.fractionLiteral ++ ";")) =
      some ((Basis.scaleDown.toList, height / Basis.referenceHeight.toRat) :: scope) :=
    declare?_scale (by decide) (by decide) hheight hdown.1 hdown.2
  have hscales : Document.scales = [
      .line ("final double " ++ Basis.scaleAcross ++ " = " ++ "constraints.maxWidth" ++ " / " ++
        Basis.referenceWidth.fractionLiteral ++ ";"),
      .line ("final double " ++ Basis.scaleDown ++ " = " ++ "constraints.maxHeight" ++ " / " ++
        Basis.referenceHeight.fractionLiteral ++ ";")] := by
    simp [Document.scales, String.append_assoc]
  rw [hscales]
  simp only [declareAll?, hsx, bind, Option.bind]
  rw [hsy _ rfl]
  rfl

end Dart

namespace Extent

section Code

variable {x : Binary64} (hx : x.isFinite = true) (width height : ℚ)

include hx

/-- A part of a side of the viewport. -/
theorem value?_side (name : String) {side : ℚ} (hname : ' ' ∉ name.toList)
    (hside : Dart.factor? (Dart.frame width height) name.toList = some side) :
    Dart.value? (Dart.frame width height) (name ++ " * " ++ x.literal).toList =
      some (x.toRat * side) := by
  have hspace := Dart.space_not_mem_of_all (Binary64.all_isWordChar_literal x)
  have hcode : (name ++ " * " ++ x.literal).toList =
      name.toList ++ ' ' :: '*' :: ' ' :: x.literal.toList := by simp
  rw [hcode, mul_comm]
  exact Dart.value?_times hname hspace hside (Dart.factor?_literal _ hx)

/-- So many units of a scale of the reference frame. -/
theorem value?_scaled {name : String} {scale : ℚ} (hname : ' ' ∉ name.toList)
    (hscale : Dart.factor? (Dart.frame width height) name.toList = some scale) :
    Dart.value? (Dart.frame width height) (x.fractionLiteral ++ " * " ++ name).toList =
      some (x.toRat * scale) := by
  have hspace := Dart.space_not_mem_of_all (Binary64.all_isWordChar_fractionLiteral x)
  have hcode : (x.fractionLiteral ++ " * " ++ name).toList =
      x.fractionLiteral.toList ++ ' ' :: '*' :: ' ' :: name.toList := by simp
  rw [hcode]
  exact Dart.value?_times hspace hname (Dart.factor?_fractionLiteral _ hx) hscale

end Code

/-- The code of an extent comes to what the extent is evaluated to. -/
theorem value?_code {e : Extent} (he : e.value.isFinite = true) (width height : ℚ) :
    Dart.value? (Dart.frame width height) e.code.toList =
      some (e.evaluateIn Binary64.toRat width height) := by
  obtain ⟨x, basis⟩ := e
  cases basis with
  | pixels =>
    have hspace := Dart.space_not_mem_of_all (Binary64.all_isWordChar_fractionLiteral x)
    rw [code, Dart.value?_word _ hspace]
    exact Dart.factor?_fractionLiteral _ he
  | viewportWidth => exact value?_side he width height "constraints.maxWidth" (by decide) rfl
  | viewportHeight => exact value?_side he width height "constraints.maxHeight" (by decide) rfl
  | frameWidth => exact value?_scaled he width height (by decide) rfl
  | frameHeight => exact value?_scaled he width height (by decide) rfl

end Extent

namespace Geometry

/-- The app places a component where its geometry is evaluated to be, on every
viewport and on every axis. -/
theorem value?_code_eq_evaluateIn {c : Component} {g : Geometry} (h : ofComponent c = .ok g)
    (width height : ℚ) :
    ∃ scope, Dart.declareAll? (Dart.viewport width height) Document.scales = some scope ∧
      ∀ e ∈ [g.left, g.top, g.width, g.height], e.value.isFinite = true ∧
        Dart.value? scope e.code.toList = some (e.evaluateIn Binary64.toRat width height) := by
  refine ⟨Dart.frame width height, Dart.declareAll?_scales width height, ?_⟩
  intro e he
  have hfinite := isFinite_of_mem_extents h e he
  exact ⟨hfinite, Extent.value?_code hfinite width height⟩

/-- A component with a fraction on one axis and pixels on the others. -/
def partlyResponsive : Component :=
  .ofFields [
    ("type", .string "Text"),
    ("position", .object [("x", .integer 12), ("y", .integer (-3))]),
    ("responsive", .object [("xPercent", .string "1e-07")])]

theorem value?_code_partlyResponsive :
    ∃ g, ofComponent partlyResponsive = .ok g ∧ g.placement = .responsive ∧
      ∃ scope, Dart.declareAll? (Dart.viewport 411 823) Document.scales = some scope ∧
        Dart.value? scope g.left.code.toList =
          some (g.left.evaluateIn Binary64.toRat 411 823) := by
  have hok : ∃ g, ofComponent partlyResponsive = .ok g ∧ g.placement = .responsive := by
    have hplacement : ((ofComponent partlyResponsive).map (·.placement)).toOption =
        some .responsive := by decide +kernel
    cases hg : ofComponent partlyResponsive with
    | error e => rw [hg] at hplacement; cases hplacement
    | ok g => rw [hg] at hplacement; exact ⟨g, rfl, Option.some.inj hplacement⟩
  obtain ⟨g, hg, hplacement⟩ := hok
  obtain ⟨scope, hscope, hextents⟩ := value?_code_eq_evaluateIn hg 411 823
  exact ⟨g, hg, hplacement, scope, hscope, (hextents g.left List.mem_cons_self).2⟩

end Geometry

end Maquette
