import Aviary.Color
import Aviary.Config
import Aviary.Number.Scalar
import Aviary.Picture
import Aviary.World

/-!
# Scenes

What is drawn of a world, in the world's own coordinates: a cleared canvas, a circle for every food, and for every
animal a triangle followed by one arc for every cell of its eye.  The cells share the field of view, which is centred
on the direction the animal faces, in equal parts.
-/

namespace Aviary

/-- A call to draw something in the coordinates of the world. -/
inductive Primitive where
  | clear
  | circle (x y radius : Number) (color : Color)
  | triangle (x y size rotation : Number) (color : Color)
  | arc (x y radius angleFrom angleTo : Number) (color : Color)
  deriving DecidableEq

namespace Scene

/-- The angles between which each eye cell looks, first cell first. -/
def eyeSpans {α : Type} [Scalar α] [Counts α] (rotation fov cells : α) : Except Fault (List (α × α)) :=
  if Scalar.le cells (Scalar.whole 0) then .ok []
  else do
    let width ← Scalar.div fov cells
    let start ← Scalar.sub rotation (← Scalar.half fov)
    let n ← Counts.count cells
    (List.range n).mapM fun (i : Nat) => do
      let first ← Scalar.add start (← Scalar.mul (Scalar.whole i) width)
      return (first, ← Scalar.add first width)

/-- An energy as a float between zero and one. -/
def clampEnergy (energy : Number) : Except Fault Float :=
  if energy.lt (.whole 0) then .ok 0.0
  else if (Number.whole 1).lt energy then .ok 1.0
  else energy.toFloat

/-- The colour of a cell that senses the given energy. -/
def eyeColor (energy : Number) : Except Fault Color := do
  let alpha ← Number.round (.real ((← clampEnergy energy) * 255.0))
  return .eye alpha.toNat

/-- The arcs of the cells with the given spans, as far as there are readings for them. -/
def arcs (x y radius : Number) : List (Number × Number) → List Number → Picture Primitive
  | [], _ => .done
  | _ :: _, [] => .stop .missingReading
  | (angleFrom, angleTo) :: spans, energy :: readings =>
    .ofExcept (eyeColor energy) fun color =>
      (Picture.emit [.arc x y radius angleFrom angleTo color]).andThen (arcs x y radius spans readings)

/-- The distance of an eye's arcs from the animal, in sizes of food. -/
def eyeDistance : Number := .real 2.5

/-- The distance of the arcs and the spans of the cells of an animal's eye. -/
def eye [Memory] (config : Config) (size : Number) (animal : Animal) :
    Except Fault (Number × List (Number × Number)) := do
  let radius ← size.mul eyeDistance
  let fov ← config.get "eye_fov_angle"
  let cells ← config.get "eye_cells"
  return (radius, ← eyeSpans animal.rotation fov cells)

def ofFood (size : Number) (food : Food) : Picture Primitive :=
  .ofExcept size.half fun radius => .emit [.circle food.x food.y radius .food]

def ofAnimal [Memory] (config : Config) (size : Number) (animal : Animal) : Picture Primitive :=
  (Picture.emit [.triangle animal.x animal.y size animal.rotation .animal]).andThen <|
    .ofExcept (eye config size animal) fun e => arcs animal.x animal.y e.1 e.2 animal.vision

/-- The scene of a world under a configuration. -/
def ofWorld [Memory] (config : Config) (world : World) : Picture Primitive :=
  (Picture.emit [.clear]).andThen <|
    .ofExcept (config.get "food_size") fun size =>
      (Picture.each world.foods (ofFood size)).andThen (Picture.each world.animals (ofAnimal config size))

end Scene

end Aviary
