import Maquette.Geometry
import Maquette.Widget.Code

/-!
# Emission

Components are turned into code one after another by emitters, one for each
type; a type without an emitter gets a placeholder. New emitters can be
registered, also in place of the built-in ones, but header components have no
code of their own under any emitter.

A run over several components keeps two things: the emitters, and whether some
component that was placed so far needs the scales of the reference frame. The
second is only ever switched on. A component that fails leaves the run as it
was.
-/

namespace Maquette

/-- What turns a component into code that begins in the first column. -/
abbrev Emitter := Component → Except NumberError String

namespace Emitter

def builtIn : List (String × Emitter) := [
  ("text", fun c => return (Widget.label (← Label.ofComponent c)).code),
  ("heading", fun c => return (Widget.heading (← Heading.ofComponent c)).code),
  ("button", fun c => return (Widget.button (← Button.ofComponent c)).code),
  ("card", fun c => return (Widget.card (← Card.ofComponent c)).code),
  ("icon", fun c => return (Widget.icon (← IconMark.ofComponent c)).code),
  ("image", fun c => return (Widget.picture (← Picture.ofComponent c)).code),
  ("container", fun c => return (Widget.box (← Box.ofComponent c)).code)]

/-- The emitter of a type without one. -/
def placeholder : Emitter :=
  fun c => .ok (Widget.placeholderOf c).code

end Emitter

/-- The state of a run over components. -/
structure Emission where
  emitters : List (String × Emitter)
  usesFrame : Bool

namespace Emission

/-- A run that has just begun. -/
def start : Emission := ⟨Emitter.builtIn, false⟩

/-- The run with an emitter added or replaced. Case does not count in the name
of a type. -/
def register (e : Emission) (type : String) (emitter : Emitter) : Emission :=
  { e with emitters := (String.ofList (Text.lower type.toList), emitter) :: e.emitters }

def emitterFor (e : Emission) (c : Component) : Emitter :=
  (e.emitters.lookup c.typeKey).getD Emitter.placeholder

/-- The code of a component so many levels in; a header component has none. -/
def widget (e : Emission) (c : Component) (level : Int) :
    Except NumberError (Option (List Char)) :=
  if c.isHeader then .ok none
  else do
    let code ← e.emitterFor c c
    return some (Text.indent (Text.levelMargin level) code.toList)

/-- The code that places a component so many levels in, and whether it needs the
scales of the reference frame. -/
def placed (e : Emission) (c : Component) (level : Int) :
    Except NumberError (Option (String × Bool)) := do
  match ← e.widget c (level + 1) with
  | none => return none
  | some snippet =>
    let geometry ← Geometry.ofComponent c
    return some (geometry.positioned snippet level, geometry.usesFrame)

/-- The run after a component was placed. -/
def after (e : Emission) : Except NumberError (Option (String × Bool)) → Emission
  | .ok (some (_, needsFrame)) => { e with usesFrame := e.usesFrame || needsFrame }
  | _ => e

/-- Places a component: its code, if it has any, and the run after it. -/
def component (e : Emission) (c : Component) (level : Int) :
    Except NumberError (Option String) × Emission :=
  let outcome := e.placed c level
  (outcome.map fun found => found.map (·.1), e.after outcome)

/-- The code of several components, those without code left out, and the run
after them; the first failure ends it. -/
def components (level : Int) : Emission → List Component →
    Except NumberError (List String × Emission)
  | e, [] => .ok ([], e)
  | e, c :: rest => do
    let found ← e.placed c level
    let (rows, last) ← components level (e.after (.ok found)) rest
    return ((found.map (·.1)).toList ++ rows, last)

/-- What a run can be asked for. -/
inductive Step
  /-- To take an emitter for a type, in place of the one that it has. -/
  | register (type : String) (emitter : Emitter)
  /-- To emit a component so many levels in. -/
  | widget (c : Component) (level : Int)
  /-- To place a component so many levels in. -/
  | component (c : Component) (level : Int)

/-- What a step gives: its code, if it has any, and the run after it. -/
def perform (e : Emission) : Step → Except NumberError (Option String) × Emission
  | .register type emitter => (.ok none, e.register type emitter)
  | .widget c level => ((e.widget c level).map fun found => found.map String.ofList, e)
  | .component c level => e.component c level

/-- What the steps give one after another, and the run after the last. A step
that fails does not end it. -/
def performAll (e : Emission) :
    List Step → List (Except NumberError (Option String)) × Emission
  | [] => ([], e)
  | step :: rest =>
    let (outcome, next) := e.perform step
    let (outcomes, last) := next.performAll rest
    (outcome :: outcomes, last)

end Emission

end Maquette
