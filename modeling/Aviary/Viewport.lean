import Aviary.Picture
import Aviary.Scene
import Aviary.Shape

/-!
# Viewports

A viewport shows a world on a surface.  The unit square of the world is mapped onto the largest square in the middle
of the surface, so positions and lengths have one scale.  Rotation zero faces down and angles grow clockwise; the arcs
of a surface are measured counter-clockwise from the right, so their angles are mirrored.
-/

namespace Aviary

namespace Viewport

/-- The stroke of an arc, as a fraction of the side of the square. -/
def strokeFraction : Number := .real 0.003

def pi : Float := 3.141592653589793

/-- The side of the square in pixels. -/
def scale (on : Surface) : Int := min on.width on.height

/-- The position of the world's origin. -/
def origin (on : Surface) : Except Fault (Number × Number) := do
  return (← Number.half (.whole (on.width - scale on)), ← Number.half (.whole (on.height - scale on)))

/-- The position of a point of the world on the surface. -/
def toPixels (on : Surface) (x y : Number) : Except Fault (Number × Number) := do
  let o ← origin on
  return (← o.1.add (← x.mul (.whole (scale on))), ← o.2.add (← y.mul (.whole (scale on))))

/-- The point at a distance of `size` times `factor` in a direction. -/
def ahead (x y size rotation : Number) (factor : Option Float) : Except Fault (Number × Number) := do
  let stretch (d : Number) : Except Fault Number :=
    match factor with
    | none => .ok d
    | some f => d.mul (.real f)
  let dx ← stretch (← (Number.real (← Number.ofAngle Float.sin rotation)).mul size)
  let px ← x.sub dx
  let dy ← stretch (← (Number.real (← Number.ofAngle Float.cos rotation)).mul size)
  return (px, ← y.add dy)

/-- The corners of an animal's triangle: the tip at one and a half sizes ahead, the others one size away to the left
and to the right behind. -/
def triangleCorners (x y size rotation : Number) :
    Except Fault ((Number × Number) × (Number × Number) × (Number × Number)) := do
  let tip ← ahead x y size rotation (some 1.5)
  let left ← ahead x y size (← rotation.add (.real (2.0 / 3.0 * pi))) none
  let right ← ahead x y size (← rotation.add (.real (4.0 / 3.0 * pi))) none
  return (tip, left, right)

/-- An angle between directions of the world as the angles between which an arc is drawn on a surface. -/
def arcSpan (angleFrom angleTo : Number) : Except Fault (Number × Number) := do
  let start ← angleTo.add (.real (pi / 2.0))
  let stop ← angleFrom.add (.real (pi / 2.0))
  return (start.neg, stop.neg)

def circle (on : Surface) (x y radius : Number) : Except Fault (Shape Number) := do
  let c ← toPixels on x y
  return .circle c.1 c.2 (Number.maxWith 1.0 (← radius.mul (.whole (scale on))))

def triangle (on : Surface) (x y size rotation : Number) : Except Fault (Shape Number) := do
  let (a, b, c) ← triangleCorners x y size rotation
  return .triangle (← toPixels on a.1 a.2) (← toPixels on b.1 b.2) (← toPixels on c.1 c.2)

/-- The square of pixels with the given side around the pixel nearest to a point.  The centre has to be a pixel itself:
a larger integer does not stand for one here. -/
def square (side : Int) (x y : Number) : Except Fault Rect := do
  let side ← Number.coordinate side
  let cx ← x.round
  let cy ← y.round
  if Word.Fits cx ∧ Word.Fits cy then
    let box : Rect := .around cx cy side side
    return { box with x := ← Number.coordinate box.x, y := ← Number.coordinate box.y }
  else throw .notCoordinate

def arc (on : Surface) (x y radius angleFrom angleTo : Number) : Except Fault (Shape Number) := do
  let c ← toPixels on x y
  let r ← (← radius.mul (.whole (scale on))).round
  let box ← square (2 * r) c.1 c.2
  let (start, stop) ← arcSpan angleFrom angleTo
  let stroke ← (← strokeFraction.mul (.whole (scale on))).round
  return .arc box start stop (max 1 stroke)

/-- The calls that draw a primitive on a surface; `scratch` is the surface made for it if it is translucent. -/
def paint (on : Surface) (scratch : SurfaceId) : Primitive → Except Fault (List (Call Number))
  | .clear => .ok [.fill on.id .background]
  | .circle x y radius color => do (← circle on x y radius).paint on color scratch
  | .triangle x y size rotation color => do (← triangle on x y size rotation).paint on color scratch
  | .arc x y radius angleFrom angleTo color => do
    (← arc on x y radius angleFrom angleTo).paint on color scratch

/-- The calls that draw primitives one after the other; `made` surfaces exist before. -/
def paintAll (on : Surface) (made : Nat) : List Primitive → Picture (Call Number)
  | [] => .done
  | p :: ps =>
    .ofExcept (paint on (.made made) p) fun calls =>
      (Picture.emit calls).andThen (paintAll on (made + surfacesMade calls) ps)

/-- The picture on a surface of a picture in the world's coordinates. -/
def paintPicture (on : Surface) (made : Nat) (picture : Picture Primitive) : Picture (Call Number) :=
  (paintAll on made picture.calls).andThen ⟨[], picture.fault⟩

end Viewport

end Aviary
