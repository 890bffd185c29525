import Aviary.Color
import Aviary.Fault
import Aviary.Memory
import Aviary.Number.Word

/-!
# Drawings

The calls that make up a drawing on surfaces: pixels have integer coordinates, shapes have scalar ones.  Surfaces are
numbered in the order in which they are made; the screen is there from the start.
-/

namespace Aviary

/-- A surface that can be drawn on. -/
inductive SurfaceId where
  | screen
  | made (index : Nat)
  deriving DecidableEq

structure Surface where
  id : SurfaceId
  width : Int
  height : Int
  deriving DecidableEq

/-- A rectangle of pixels. -/
structure Rect where
  x : Int
  y : Int
  width : Int
  height : Int
  deriving DecidableEq

namespace Rect

/-- Whether each of two rectangles starts before the other one ends, in both directions. -/
def overlaps (a b : Rect) : Prop :=
  (a.x < b.x + b.width ∧ b.x < a.x + a.width) ∧ (a.y < b.y + b.height ∧ b.y < a.y + a.height)

instance (a b : Rect) : Decidable (a.overlaps b) := by unfold overlaps; infer_instance

/-- The part of `a` inside `b`, of no size if they do not overlap.  A rectangle of negative size is inside out: it has
no pixels, and is its own part inside a rectangle that both of its ends lie in. -/
def clip (a b : Rect) : Rect :=
  if a.overlaps b then
    let left := max a.x b.x
    let top := max a.y b.y
    ⟨left, top, min (a.x + a.width) (b.x + b.width) - left, min (a.y + a.height) (b.y + b.height) - top⟩
  else ⟨a.x, a.y, 0, 0⟩

/-- The rectangle with one more pixel on every side. -/
def grow (r : Rect) : Rect := ⟨r.x - 1, r.y - 1, r.width + 2, r.height + 2⟩

def move (r : Rect) (dx dy : Int) : Rect := { r with x := r.x + dx, y := r.y + dy }

/-- The rectangle of the given size around a centre. -/
def around (x y width height : Int) : Rect := ⟨x - width.fdiv 2, y - height.fdiv 2, width, height⟩

/-- Whether a pixel lies in a rectangle. -/
def Has (r : Rect) (px py : Int) : Prop := r.x ≤ px ∧ px < r.x + r.width ∧ r.y ≤ py ∧ py < r.y + r.height

/-- Whether a rectangle lies in another one with all four sides. -/
def Inside (a b : Rect) : Prop :=
  b.x ≤ a.x ∧ a.x + a.width ≤ b.x + b.width ∧ b.y ≤ a.y ∧ a.y + a.height ≤ b.y + b.height

/-- The intersection of two rectangles has the pixels that both have. -/
theorem has_clip {a b : Rect} {px py : Int} : (a.clip b).Has px py ↔ a.Has px py ∧ b.Has px py := by
  unfold Has clip overlaps
  grind

end Rect

/-- Whether there can be a surface of the given size: the bytes of a row are counted by a word, and there is memory for
all pixels. -/
def Surface.Fits [Memory] (width height : Int) : Prop :=
  Word.Fits (width * Memory.pixelBytes) ∧ Memory.holds (.pixels width.toNat height.toNat) = true

instance [Memory] (width height : Int) : Decidable (Surface.Fits width height) := by
  unfold Surface.Fits
  infer_instance

/-- The size in pixels that a width and a height stand for.  No size is negative, or too large for the memory. -/
def Surface.size [Memory] (width height : Int) : Except Fault (Int × Int) :=
  match Word.ofInt? width, Word.ofInt? height with
  | some w, some h =>
    if w < 0 ∨ h < 0 then .error .surfaceSize
    else if Surface.Fits w h then .ok (w, h)
    else .error .noPixels
  | _, _ => .error .notSize

def Surface.bounds (s : Surface) : Rect := ⟨0, 0, s.width, s.height⟩

/-- What is copied onto a surface: another surface, or text in a colour. -/
inductive Source where
  | surface (id : SurfaceId)
  | text (content : String) (color : Color)
  deriving DecidableEq

/-- One drawing call. -/
inductive Call (α : Type) where
  /-- Makes a surface, with an alpha channel or without. -/
  | surface (id : SurfaceId) (width height : Int) (alpha : Bool)
  | fill (on : SurfaceId) (color : Color)
  | blit (on : SurfaceId) (source : Source) (x y : Int)
  | circle (on : SurfaceId) (color : Color) (x y radius : α)
  | polygon (on : SurfaceId) (color : Color) (corners : List (α × α))
  | arc (on : SurfaceId) (color : Color) (box : Rect) (start stop : α) (stroke : Int)
  | line (on : SurfaceId) (color : Color) (x₁ y₁ x₂ y₂ : Int)
  | rect (on : SurfaceId) (color : Color) (box : Rect)
  /-- Starts up the display. -/
  | init
  | quit
  | setMode (width height : Int)
  | setCaption (text : String)
  | font (name : String) (size : Nat)
  | startTextInput
  /-- Shows the frame drawn so far. -/
  | flip
  /-- Waits for the next frame. -/
  | tick (framesPerSecond : Nat)
  deriving DecidableEq

/-- A surface of the given size, and the call that makes it. -/
def Surface.make [Memory] {α : Type} (id : SurfaceId) (width height : Int) (alpha : Bool) :
    Except Fault (Surface × Call α) := do
  let (w, h) ← size width height
  return (⟨id, w, h⟩, .surface id width height alpha)

/-- How many surfaces a list of calls makes. -/
def surfacesMade {α : Type} (calls : List (Call α)) : Nat :=
  calls.countP fun | .surface .. => true | _ => false

end Aviary
