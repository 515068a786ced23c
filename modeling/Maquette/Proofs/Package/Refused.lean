import Maquette.Deployment
import Maquette.Proofs.Document.Refused
import Maquette.Proofs.Package.Home

/-!
# Requests that cannot be packaged

Packaging reads nothing as a number but the first screen of a request. Under the settings
of a deployment the defaults are there, so are the texts of the manifests, and the code
of the first screen is missing exactly if a number in it is refused.
-/

namespace Maquette

/-- The defaults are known under the settings of any deployment, since they have the
directory for media as a text. -/
theorem Deployment.exists_defaults (d : Deployment) (environment : List (String × String)) :
    ∃ defaults, Package.Defaults.ofSettings d.settings environment = .ok defaults :=
  ⟨_, rfl⟩

namespace Package

/-- The first screen of a request has a number that is refused for this reason. -/
def Refuses (request : Json) (error : NumberError) : Prop :=
  ∃ first, (savedScreens request).head? = some first ∧ (Screen.ofValue first).Refuses error

theorem failsOnly_mainCode (defaults : Defaults) (now : Instant) (request : Json) :
    FailsOnly (Refuses request) (ofRequest defaults now request).mainCode := by
  unfold mainCode
  rw [homeScreen?_eq]
  cases hscreen : (savedScreens request).head? with
  | none => exact failsOnly_ok _
  | some first =>
    refine failsOnly_map _ ((Document.failsOnly_ofScreen _ (Screen.ofValue first)).mono ?_)
    exact fun error hrefuses => ⟨first, hscreen, hrefuses⟩

theorem isOk_mainCode_eq_false_iff (defaults : Defaults) (now : Instant) (request : Json) :
    (ofRequest defaults now request).mainCode.isOk = false ↔ ∃ error, Refuses request error := by
  unfold mainCode Refuses
  rw [homeScreen?_eq]
  cases (savedScreens request).head? with
  | none => simp
  | some first =>
    dsimp only [Option.map_some]
    rw [isOk_map, Document.isOk_ofScreen, ← Screen.exists_refuses_iff]
    simp

/-- Under the settings of a deployment, packaging a request of any shape either gives the
eight files in order or fails for a number of the first screen that is refused: an integer
past the largest double in a place where a number is read, or the infinite or undefined
level of a heading. It fails whenever there is such a number. -/
theorem files_fail_iff_number_refused (d : Deployment) (environment : List (String × String))
    (now : Instant) (request : Json) :
    ∃ defaults, Defaults.ofSettings d.settings environment = .ok defaults ∧
      (∀ files, (ofRequest defaults now request).files = .ok files →
        files.map Prod.fst = fileNames) ∧
      (∀ e, (ofRequest defaults now request).files = .error e →
        ∃ error, e = .number error ∧ Refuses request error) ∧
      ((ofRequest defaults now request).files.isOk = false ↔ ∃ error, Refuses request error) := by
  obtain ⟨defaults, hdefaults⟩ := d.exists_defaults environment
  refine ⟨defaults, hdefaults, fun files hfiles => map_fst_of_files hfiles, ?_, ?_⟩
  · intro e he
    obtain ⟨error, rfl, hcode⟩ := mainCode_of_files_eq_error he
    exact ⟨error, rfl, failsOnly_mainCode defaults now request error hcode⟩
  · rw [isOk_files]
    exact isOk_mainCode_eq_false_iff defaults now request

/-- A heading with a number as its level. -/
def leveledHeading (level : Binary64) : Fields :=
  [("type", .string " HEADING "), ("props", .object [("level", .number level)])]

def leveledScreen (level : Binary64) : Json :=
  .object [("components", .array [.object (leveledHeading level)])]

theorem typeKey_leveledHeading (level : Binary64) :
    (Component.ofFields (leveledHeading level)).typeKey = "heading" := by
  have hkey : Text.key " HEADING " = "heading" := by decide
  exact hkey

/-- A heading on its own is placed, and reads nine fields as numbers that are not there. -/
theorem refuses_leveledScreen_iff (level : Binary64) (e : NumberError) :
    (Screen.ofValue (leveledScreen level)).Refuses e ↔
      Refused (List.replicate 9 .null) [.number level] e := by
  have hplaced : Arrangement.ofComponents (Screen.ofValue (leveledScreen level)).components =
      ⟨[], [Component.ofFields (leveledHeading level)]⟩ := by
    have hheader : Component.isHeader (Component.ofFields (leveledHeading level)) = false := by
      rw [Component.isHeader, typeKey_leveledHeading]
      decide
    change Arrangement.ofComponents [Component.ofFields (leveledHeading level)] = _
    simp [Arrangement.ofComponents, hheader]
  have hnumbers : (Component.ofFields (leveledHeading level)).numericValues =
      List.replicate 9 .null := by
    rw [Component.numericValues, Component.widgetValues, typeKey_leveledHeading]
    rfl
  have hlevels : (Component.ofFields (leveledHeading level)).levels = [.number level] := by
    rw [Component.levels, typeKey_leveledHeading]
    rfl
  simp only [Screen.Refuses, Screen.numericValues, Screen.levels, hplaced, List.flatMap_cons,
    List.flatMap_nil, hnumbers, hlevels, List.head?_nil, Option.toList_none, List.nil_append,
    List.append_nil]

/-- A request with an infinite level on the first screen and an undefined one on the second,
and a name that is past the largest double. -/
def endlessRequest : Json :=
  .object [("template", .object [
    ("name", .integer (Nat.pow 10 200 * Nat.pow 10 200)),
    ("screens", .array [leveledScreen (.infinite true), leveledScreen .nan])])]

theorem files_fail_endlessRequest :
    ∃ d defaults, Deployment.ofEnvironment "/srv" [] = .ok d ∧
      Defaults.ofSettings d.settings [] = .ok defaults ∧
      (ofRequest defaults ⟨1700000000123456⟩ endlessRequest).files =
        .error (.number .infiniteInteger) := by
  obtain ⟨d, hd⟩ : ∃ d, Deployment.ofEnvironment "/srv" [] = .ok d :=
    (exists_eq_ok_iff _).2 (by decide)
  obtain ⟨defaults, hdefaults, -, hreason, hfails⟩ :=
    files_fail_iff_number_refused d [] ⟨1700000000123456⟩ endlessRequest
  have hrefuses : Refuses endlessRequest .infiniteInteger :=
    ⟨_, rfl, (refuses_leveledScreen_iff _ _).2 ⟨true, List.mem_singleton_self _⟩⟩
  have hnot := hfails.2 ⟨_, hrefuses⟩
  refine ⟨d, defaults, hd, hdefaults, ?_⟩
  cases hfiles : (ofRequest defaults ⟨1700000000123456⟩ endlessRequest).files with
  | ok files =>
    rw [hfiles] at hnot
    cases hnot
  | error e =>
    obtain ⟨error, rfl, first, hfirst, herror⟩ := hreason e hfiles
    obtain rfl : leveledScreen (.infinite true) = first := Option.some.inj hfirst
    rw [refuses_leveledScreen_iff] at herror
    cases error with
    | infiniteInteger => rfl
    | integerTooLarge =>
      obtain ⟨n, hmem, -⟩ := herror
      cases List.eq_of_mem_replicate hmem
    | notANumberInteger => cases List.mem_singleton.1 herror
    | notNumeric text => exact herror.elim
    | wrongType typeName => exact herror.elim

end Package

end Maquette
