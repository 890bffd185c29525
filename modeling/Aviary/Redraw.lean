import Aviary.Scene
import Aviary.Session

/-!
# Frames of a session

To show a session a frame long, the simulation steps unless it is paused, a summary is printed if the step ended a
generation, and the world as it is then makes the scene.
-/

namespace Aviary

/-- What came of a frame: the session after it, the lines it printed, and the world with its scene unless the
simulation failed. -/
structure Frame (E : Engine) where
  session : Session E
  printed : List Line
  scene : Except Fault (World × Picture Primitive)

/-- What stopped a frame: a fault of the simulation, or one in the drawing of its scene. -/
def Frame.fault {E : Engine} (f : Frame E) : Option Fault :=
  match f.scene with
  | .error fault => some fault
  | .ok (_, picture) => picture.fault

namespace Session

variable {E : Engine} [Memory]

/-- The lines printed for what a step gave: none for no summary and none for an empty one. -/
def summaryLines : Option String → List Line
  | none => []
  | some summary => if summary.isEmpty then [] else [some summary]

/-- The world of the installed simulation and its scene. -/
def scene (s : Session E) : Except Fault (World × Picture Primitive) := do
  let world ← s.world
  return (world, Scene.ofWorld s.config world)

/-- Lets one frame pass. -/
def redraw (s : Session E) : Frame E :=
  if s.active then
    match s.step with
    | (.error fault, s') => ⟨s', [], .error fault⟩
    | (.ok summary?, s') => ⟨s', summaryLines summary?, s'.scene⟩
  else ⟨s, [], s.scene⟩

end Session

end Aviary
