import Aviary.Drawing
import Aviary.Fault
import Aviary.Number.Scalar

/-!
# Shapes

Circles, triangles and arcs in the coordinates of a surface.  An opaque shape is drawn where it is.  A translucent one
is drawn on a scratch surface that covers the part of its bounds inside the surface, and copied from there, so that
shapes blend where they overlap; nothing is drawn if no part is inside.
-/

namespace Aviary

/-- A shape in the coordinates of a surface. -/
inductive Shape (α : Type) where
  | circle (x y radius : α)
  | triangle (a b c : α × α)
  | arc (box : Rect) (start stop : α) (stroke : Int)
  deriving DecidableEq

namespace Shape

variable {α : Type} [Scalar α]

open Scalar

/-- The rectangle of pixels with the given corner and size. -/
def pixels (α : Type) [Scalar α] (x y width height : Int) : Except Fault Rect := do
  return ⟨← coordinate α x, ← coordinate α y, ← coordinate α width, ← coordinate α height⟩

/-- The rectangle of pixels with the given corner and size, up to the pixels that its far ends stand for. -/
def region (α : Type) [Scalar α] (x y width height : Int) : Except Fault Rect := do
  let r ← pixels α x y width height
  let right ← coordinate α (r.x + r.width)
  let bottom ← coordinate α (r.y + r.height)
  return { r with width := right - r.x, height := bottom - r.y }

/-- A rectangle of pixels around a shape, with a margin for the fractions that are cut off from its coordinates. -/
def bounds : Shape α → Except Fault Rect
  | circle x y radius => do
    let left ← trunc (← sub x radius)
    let top ← trunc (← sub y radius)
    let width ← trunc (← mul (whole 2) radius)
    let height ← trunc (← mul (whole 2) radius)
    region α (left - 1) (top - 1) (width + 3) (height + 3)
  | triangle (x₁, y₁) (x₂, y₂) (x₃, y₃) => do
    let left := Scalar.min (Scalar.min x₁ x₂) x₃
    let top := Scalar.min (Scalar.min y₁ y₂) y₃
    let right := Scalar.max (Scalar.max x₁ x₂) x₃
    let bottom := Scalar.max (Scalar.max y₁ y₂) y₃
    let x ← trunc left
    let y ← trunc top
    let width ← trunc (← sub right left)
    let height ← trunc (← sub bottom top)
    region α (x - 1) (y - 1) (width + 3) (height + 3)
  | arc box _ _ _ => region α box.grow.x box.grow.y box.grow.width box.grow.height

/-- The point moved by whole pixels. -/
def movePoint (p : α × α) (dx dy : Int) : Except Fault (α × α) := do
  return (← add p.1 (whole dx), ← add p.2 (whole dy))

/-- The shape moved by whole pixels. -/
def move (shape : Shape α) (dx dy : Int) : Except Fault (Shape α) :=
  match shape with
  | circle x y radius => do
    let p ← movePoint (x, y) dx dy
    return circle p.1 p.2 radius
  | triangle a b c => do return triangle (← movePoint a dx dy) (← movePoint b dx dy) (← movePoint c dx dy)
  | arc box start stop stroke => .ok (arc (box.move dx dy) start stop stroke)

/-- The call that draws a shape. -/
def call (on : SurfaceId) (color : Color) : Shape α → Call α
  | circle x y radius => .circle on color x y radius
  | triangle a b c => .polygon on color [a, b, c]
  | arc box start stop stroke => .arc on color box start stop stroke

/-- The calls that draw a translucent shape; `scratch` is the surface made for it. -/
def blend (shape : Shape α) (on : Surface) (color : Color) (scratch : SurfaceId) : Except Fault (List (Call α)) := do
  let box := (← shape.bounds).clip on.bounds
  if box.width = 0 ∨ box.height = 0 then return []
  if box.width < 0 ∨ box.height < 0 then throw .surfaceSize
  let moved ← shape.move (-box.x) (-box.y)
  return [.surface scratch box.width box.height true, moved.call scratch color,
    .blit on.id (.surface scratch) box.x box.y]

/-- The calls that draw a shape. -/
def paint (shape : Shape α) (on : Surface) (color : Color) (scratch : SurfaceId) : Except Fault (List (Call α)) :=
  match color.alpha with
  | none => .ok [shape.call on.id color]
  | some _ => shape.blend on color scratch

end Shape

end Aviary
