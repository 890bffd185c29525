import Mathlib.Data.Rat.Floor
import Mathlib.Tactic.Linarith
import Aviary.Shape

/-!
# Translucent shapes

Over the rationals, where a coordinate can be any number, a translucent shape is drawn where an opaque one is, cut off
at the edges of the surface.  Its bounds contain it, although they are found by cutting off fractions, which moves a
number to the right if it is negative and to the left if it is positive (`bounds_contains`).  The scratch surface has
the pixels that the bounds share with the surface (`Rect.has_clip`), and the shape stands on it where it stands on the
surface (`exists_move`).  The main statement is `paint_translucent`.

Numbers are drawn with coordinates that are words.  As long as the numbers of its bounds are words, what is drawn of a
shape of integers is the same with numbers as over the rationals (`exists_paint_whole`).
-/

namespace Aviary

/-! ### Integer parts -/

private theorem truncate_of_nonneg {q : Rat} (h : 0 ≤ q) : truncate q = ⌊q⌋ := by
  unfold truncate
  rw [Rat.floor_def', Int.tdiv_eq_ediv_of_nonneg (Rat.num_nonneg.mpr h)]

private theorem truncate_neg (q : Rat) : truncate (-q) = -truncate q := by
  unfold truncate
  rw [Rat.num_neg_eq_neg_num, Rat.den_neg_eq_den, Int.neg_tdiv]

/-- The integer part of a number differs from it by less than one. -/
private theorem abs_sub_truncate_lt (q : Rat) : |q - truncate q| < 1 := by
  have hfloor : ∀ q : Rat, 0 ≤ q → |q - truncate q| < 1 := by
    intro q hq
    rw [truncate_of_nonneg hq, abs_of_nonneg (sub_nonneg.mpr (Int.floor_le q))]
    linarith [Int.lt_floor_add_one q]
  rcases le_total 0 q with hq | hq
  · exact hfloor q hq
  · have hneg := hfloor (-q) (neg_nonneg.mpr hq)
    rw [truncate_neg, Int.cast_neg, ← abs_neg] at hneg
    ring_nf at hneg ⊢
    exact hneg

/-! ### Rectangles -/

namespace Rect

variable {a b : Rect}

private theorem pos_of_has {px py : Int} (h : a.Has px py) : 0 < a.width ∧ 0 < a.height := by
  unfold Has at h
  omega

private theorem exists_has (hw : 0 < a.width) (hh : 0 < a.height) : ∃ px py, a.Has px py := by
  refine ⟨a.x, a.y, ?_⟩
  unfold Has
  omega

private theorem clip_eq (h : a.overlaps b) :
    a.clip b = ⟨max a.x b.x, max a.y b.y, min (a.x + a.width) (b.x + b.width) - max a.x b.x,
      min (a.y + a.height) (b.y + b.height) - max a.y b.y⟩ := if_pos h

private theorem clip_of_not_overlaps (h : ¬ a.overlaps b) : a.clip b = ⟨a.x, a.y, 0, 0⟩ := if_neg h

/-- The intersection of rectangles that are not inside out is not inside out. -/
private theorem clip_nonneg (ha : 0 ≤ a.width ∧ 0 ≤ a.height) (hb : 0 ≤ b.width ∧ 0 ≤ b.height) :
    0 ≤ (a.clip b).width ∧ 0 ≤ (a.clip b).height := by
  by_cases h : a.overlaps b
  · rw [clip_eq h]
    unfold overlaps at h
    dsimp only
    omega
  · rw [clip_of_not_overlaps h]
    exact ⟨le_refl 0, le_refl 0⟩

/-- An intersection with pixels lies in both rectangles. -/
private theorem clip_inside (hw : 0 < (a.clip b).width) : (a.clip b).Inside b := by
  by_cases h : a.overlaps b
  · rw [clip_eq h]
    unfold Inside
    dsimp only
    omega
  · rw [clip_of_not_overlaps h] at hw
    exact absurd hw (lt_irrefl 0)

end Rect

/-! ### Bounds -/

/-- The lines between which a shape lies. -/
structure Extent where
  left : Rat
  top : Rat
  right : Rat
  bottom : Rat

/-- Whether a rectangle of pixels contains all points between the lines of an extent. -/
def Rect.Contains (r : Rect) (e : Extent) : Prop :=
  (r.x ≤ e.left ∧ e.right < r.x + r.width) ∧ (r.y ≤ e.top ∧ e.bottom < r.y + r.height)

/-- A rectangle that contains an extent has a width and a height. -/
private theorem Rect.Contains.nonneg {r : Rect} {e : Extent} (h : r.Contains e)
    (he : e.left ≤ e.right ∧ e.top ≤ e.bottom) : 0 ≤ r.width ∧ 0 ≤ r.height := by
  obtain ⟨⟨hleft, hright⟩, htop, hbottom⟩ := h
  constructor
  · have hw : (0 : Rat) ≤ r.width := by linarith
    exact_mod_cast hw
  · have hh : (0 : Rat) ≤ r.height := by linarith
    exact_mod_cast hh

namespace Shape

/-- The box of a shape: the square around a circle, the least box with the corners of a triangle, and the box that an
arc is given by. -/
def extent : Shape Rat → Extent
  | circle x y radius => ⟨x - radius, y - radius, x + radius, y + radius⟩
  | triangle (x₁, y₁) (x₂, y₂) (x₃, y₃) =>
    ⟨Min.min (Min.min x₁ x₂) x₃, Min.min (Min.min y₁ y₂) y₃, Max.max (Max.max x₁ x₂) x₃, Max.max (Max.max y₁ y₂) y₃⟩
  | arc box _ _ _ => ⟨box.x, box.y, box.x + box.width, box.y + box.height⟩

/-- Whether the size of a shape is one: no radius, and no side of an arc's box, is negative. -/
def IsSized : Shape Rat → Prop
  | circle _ _ radius => 0 ≤ radius
  | triangle _ _ _ => True
  | arc box _ _ _ => 0 ≤ box.width ∧ 0 ≤ box.height

/-- Whether calls draw a translucent shape on a scratch surface and copy this onto a surface: the scratch surface has
the pixels that `box` shares with the surface, and the shape stands on it where it stands on the surface. -/
def IsCut (shape : Shape Rat) (on : Surface) (color : Color) (scratch : SurfaceId) (box : Rect)
    (calls : List (Call Rat)) : Prop :=
  ∃ (part : Rect) (moved : Shape Rat),
    calls = [.surface scratch part.width part.height true, moved.call scratch color,
      .blit on.id (.surface scratch) part.x part.y] ∧
    0 < part.width ∧ 0 < part.height ∧ part.Inside on.bounds ∧
    (∀ px py, part.Has px py ↔ box.Has px py ∧ on.bounds.Has px py) ∧ moved.move part.x part.y = .ok shape

variable {shape : Shape Rat}

private theorem scalar_min (a b : Rat) : Scalar.min a b = Min.min a b := by
  unfold Scalar.min
  show (if decide (b < a) = true then b else a) = _
  rw [min_def]
  grind

private theorem scalar_max (a b : Rat) : Scalar.max a b = Max.max a b := by
  unfold Scalar.max
  show (if decide (a < b) = true then b else a) = _
  rw [max_def]
  grind

private theorem IsSized.extent_le (h : shape.IsSized) :
    shape.extent.left ≤ shape.extent.right ∧ shape.extent.top ≤ shape.extent.bottom := by
  cases shape with
  | circle x y radius =>
    have hr : 0 ≤ radius := h
    constructor
    · show x - radius ≤ x + radius
      linarith
    · show y - radius ≤ y + radius
      linarith
  | triangle a b c =>
    constructor
    · exact (min_le_right _ _).trans (le_max_right _ _)
    · exact (min_le_right _ _).trans (le_max_right _ _)
  | arc box start stop stroke =>
    obtain ⟨hw, hh⟩ := h
    constructor
    · show (box.x : Rat) ≤ box.x + box.width
      exact_mod_cast Int.le_add_of_nonneg_right hw
    · show (box.y : Rat) ≤ box.y + box.height
      exact_mod_cast Int.le_add_of_nonneg_right hh

/-- The box with the integer parts of a corner and a size, one pixel further to the left and to the top, and three
pixels larger. -/
def truncatedBox (left top width height : Rat) : Rect :=
  ⟨truncate left - 1, truncate top - 1, truncate width + 3, truncate height + 3⟩

/-- The margins make up for the fractions that are cut off from a start and from a length. -/
private theorem truncated_covers (start length : Rat) :
    ((truncate start - 1 : Int) : Rat) ≤ start ∧
      start + length < ((truncate start - 1 : Int) : Rat) + ((truncate length + 3 : Int) : Rat) := by
  obtain ⟨hstart, hstart'⟩ := abs_lt.mp (abs_sub_truncate_lt start)
  obtain ⟨-, hlength⟩ := abs_lt.mp (abs_sub_truncate_lt length)
  push_cast
  constructor
  · linarith
  · linarith

private theorem truncatedBox_contains {left top width height right bottom : Rat} (hright : left + width = right)
    (hbottom : top + height = bottom) :
    (truncatedBox left top width height).Contains ⟨left, top, right, bottom⟩ := by
  have hx := truncated_covers left width
  have hy := truncated_covers top height
  rw [hright] at hx
  rw [hbottom] at hy
  exact ⟨hx, hy⟩

private theorem region_eq (x y width height : Int) : region Rat x y width height = .ok ⟨x, y, width, height⟩ := by
  have hwidth : x + width - x = width := by omega
  have hheight : y + height - y = height := by omega
  show Except.ok (⟨x, y, x + width - x, y + height - y⟩ : Rect) = _
  rw [hwidth, hheight]

/-- The bounds of a shape contain it. -/
theorem bounds_contains (shape : Shape Rat) : ∃ box, shape.bounds = .ok box ∧ box.Contains shape.extent := by
  cases shape with
  | circle x y radius =>
    have hbox : (circle x y radius).bounds = .ok (truncatedBox (x - radius) (y - radius) (2 * radius) (2 * radius)) :=
      region_eq _ _ _ _
    exact ⟨_, hbox, truncatedBox_contains (by ring) (by ring)⟩
  | triangle a b c =>
    obtain ⟨x₁, y₁⟩ := a
    obtain ⟨x₂, y₂⟩ := b
    obtain ⟨x₃, y₃⟩ := c
    let e := (triangle (x₁, y₁) (x₂, y₂) (x₃, y₃)).extent
    have hbox : (triangle (x₁, y₁) (x₂, y₂) (x₃, y₃)).bounds =
        .ok (truncatedBox e.left e.top (e.right - e.left) (e.bottom - e.top)) := by
      simp only [e, extent, ← scalar_min, ← scalar_max]
      exact region_eq _ _ _ _
    exact ⟨_, hbox, truncatedBox_contains (add_sub_cancel _ _) (add_sub_cancel _ _)⟩
  | arc box start stop stroke =>
    have hbox : (arc box start stop stroke).bounds = .ok box.grow := region_eq _ _ _ _
    refine ⟨_, hbox, ⟨?_, ?_⟩, ?_, ?_⟩ <;> (simp only [Rect.grow, extent]; push_cast; linarith)

/-! ### Moving -/

private theorem add_neg_add (a : Rat) (d : Int) : a + ((-d : Int) : Rat) + (d : Rat) = a := by
  push_cast
  ring

private theorem movePoint_eq (p : Rat × Rat) (dx dy : Int) : movePoint p dx dy = .ok (p.1 + dx, p.2 + dy) := rfl

/-- A shape that is moved back is where it was. -/
theorem exists_move (shape : Shape Rat) (dx dy : Int) :
    ∃ moved, shape.move (-dx) (-dy) = .ok moved ∧ moved.move dx dy = .ok shape := by
  have hpoint : ∀ p : Rat × Rat, movePoint (p.1 + ((-dx : Int) : Rat), p.2 + ((-dy : Int) : Rat)) dx dy = .ok p := by
    intro p
    rw [movePoint_eq, add_neg_add, add_neg_add]
  cases shape with
  | circle x y radius =>
    refine ⟨circle (x + ((-dx : Int) : Rat)) (y + ((-dy : Int) : Rat)) radius, rfl, ?_⟩
    exact Fault.bind_eq_ok_iff.mpr ⟨(x, y), hpoint (x, y), rfl⟩
  | triangle a b c =>
    refine ⟨_, rfl, ?_⟩
    exact Fault.bind_eq_ok_iff.mpr ⟨a, hpoint a, Fault.bind_eq_ok_iff.mpr ⟨b, hpoint b,
      Fault.bind_eq_ok_iff.mpr ⟨c, hpoint c, rfl⟩⟩⟩
  | arc box start stop stroke =>
    have hbox : (box.move (-dx) (-dy)).move dx dy = box := by
      unfold Rect.move
      simp
    refine ⟨_, rfl, ?_⟩
    show Except.ok (arc ((box.move (-dx) (-dy)).move dx dy) start stop stroke) = _
    rw [hbox]

/-! ### Painting -/

variable {on : Surface} {color : Color} {scratch : SurfaceId} {box : Rect}

section Parts

variable {α : Type} [Scalar α] {shape moved : Shape α}

private theorem blend_of_empty (hb : shape.bounds = .ok box)
    (h : (box.clip on.bounds).width = 0 ∨ (box.clip on.bounds).height = 0) :
    shape.blend on color scratch = .ok [] := by
  unfold blend
  rw [hb]
  exact if_pos h

private theorem blend_of_pos (hb : shape.bounds = .ok box)
    (hw : 0 < (box.clip on.bounds).width) (hh : 0 < (box.clip on.bounds).height)
    (hm : shape.move (-(box.clip on.bounds).x) (-(box.clip on.bounds).y) = .ok moved) :
    shape.blend on color scratch =
      .ok [.surface scratch (box.clip on.bounds).width (box.clip on.bounds).height true, moved.call scratch color,
        .blit on.id (.surface scratch) (box.clip on.bounds).x (box.clip on.bounds).y] := by
  have hne : ¬ ((box.clip on.bounds).width = 0 ∨ (box.clip on.bounds).height = 0) := by omega
  have hnonneg : ¬ ((box.clip on.bounds).width < 0 ∨ (box.clip on.bounds).height < 0) := by omega
  unfold blend
  rw [hb]
  refine (if_neg hne).trans ((if_neg hnonneg).trans ?_)
  rw [hm]
  rfl

private theorem blend_of_neg (hb : shape.bounds = .ok box)
    (hne : ¬ ((box.clip on.bounds).width = 0 ∨ (box.clip on.bounds).height = 0))
    (h : (box.clip on.bounds).width < 0 ∨ (box.clip on.bounds).height < 0) :
    shape.blend on color scratch = .error .surfaceSize := by
  unfold blend
  rw [hb]
  exact (if_neg hne).trans (if_pos h)

private theorem paint_of_alpha {alpha : Nat} (hc : color.alpha = some alpha) :
    shape.paint on color scratch = shape.blend on color scratch := by
  unfold paint
  rw [hc]

end Parts

/-- A translucent shape is drawn where an opaque one is, but for what is beyond the edges of the surface.  Its bounds
contain it, and nothing at all is drawn if they share no pixel with the surface. -/
theorem paint_translucent (hs : shape.IsSized) (hw : 0 ≤ on.width) (hh : 0 ≤ on.height) {alpha : Nat}
    (hc : color.alpha = some alpha) (scratch : SurfaceId) :
    ∃ box, shape.bounds = .ok box ∧ box.Contains shape.extent ∧
      ((¬ ∃ px py, box.Has px py ∧ on.bounds.Has px py) → shape.paint on color scratch = .ok []) ∧
      ((∃ px py, box.Has px py ∧ on.bounds.Has px py) →
        ∃ calls, shape.paint on color scratch = .ok calls ∧ shape.IsCut on color scratch box calls) ∧
      ∀ solid : Color, solid.alpha = none → shape.paint on solid scratch = .ok [shape.call on.id solid] := by
  obtain ⟨box, hbox, hcontains⟩ := shape.bounds_contains
  have hpart : 0 ≤ (box.clip on.bounds).width ∧ 0 ≤ (box.clip on.bounds).height :=
    Rect.clip_nonneg (hcontains.nonneg hs.extent_le) ⟨hw, hh⟩
  refine ⟨box, hbox, hcontains, fun hnone => ?_, ?_, fun solid hsolid => ?_⟩
  · rw [paint_of_alpha hc]
    refine blend_of_empty hbox ?_
    -- an intersection with a width and a height has a pixel
    by_contra hne
    obtain ⟨px, py, hpixel⟩ := Rect.exists_has (a := box.clip on.bounds) (by omega) (by omega)
    exact hnone ⟨px, py, Rect.has_clip.mp hpixel⟩
  · rintro ⟨px, py, hpixel⟩
    obtain ⟨hwidth, hheight⟩ := Rect.pos_of_has (Rect.has_clip.mpr hpixel)
    obtain ⟨moved, hmoved, hback⟩ := shape.exists_move (box.clip on.bounds).x (box.clip on.bounds).y
    rw [paint_of_alpha hc]
    exact ⟨_, blend_of_pos hbox hwidth hheight hmoved, box.clip on.bounds, moved, rfl, hwidth, hheight,
      Rect.clip_inside hwidth, fun _ _ => Rect.has_clip, hback⟩
  · unfold paint
    rw [hsolid]

/-- A circle half of which is beyond the left edge. -/
theorem paint_translucent_circle :
    let shape : Shape Rat := .circle (-1 / 2) 3 (5 / 2)
    let on : Surface := ⟨.made 0, 20, 10⟩
    let color : Color := .eye 128
    let box : Rect := ⟨-4, -1, 8, 8⟩
    shape.IsSized ∧ 0 ≤ on.width ∧ 0 ≤ on.height ∧ color.alpha = some 128 ∧ box.Has 0 0 ∧ on.bounds.Has 0 0 ∧
      box.Contains shape.extent ∧
      ∃ calls, shape.paint on color (.made 1) = .ok calls ∧ shape.IsCut on color (.made 1) box calls := by
  intro shape on color box
  have hs : shape.IsSized := show (0 : Rat) ≤ 5 / 2 by norm_num
  have hw : 0 ≤ on.width := by decide
  have hh : 0 ≤ on.height := by decide
  have hbounds : shape.bounds = .ok box := by decide +kernel
  have hbox : box.Has 0 0 := by unfold Rect.Has; decide
  have hon : on.bounds.Has 0 0 := by unfold Rect.Has; decide
  have hc : color.alpha = some 128 := rfl
  obtain ⟨box', hbox', hcontains, -, hdrawn, -⟩ := paint_translucent hs hw hh hc (.made 1)
  obtain rfl : box' = box := Except.ok.inj (hbox'.symm.trans hbounds)
  exact ⟨hs, hw, hh, hc, hbox, hon, hcontains, hdrawn ⟨0, 0, hbox, hon⟩⟩

end Shape

/-! ### Painting with numbers -/

/-- Whether the corner, the size and the far ends of a rectangle are words. -/
structure Rect.IsWords (r : Rect) : Prop where
  x : Word.Fits r.x
  y : Word.Fits r.y
  width : Word.Fits r.width
  height : Word.Fits r.height
  right : Word.Fits (r.x + r.width)
  bottom : Word.Fits (r.y + r.height)

/-- The shape with every scalar replaced. -/
def Shape.map {α β : Type} (f : α → β) : Shape α → Shape β
  | circle x y radius => circle (f x) (f y) (f radius)
  | triangle a b c => triangle (f a.1, f a.2) (f b.1, f b.2) (f c.1, f c.2)
  | arc box start stop stroke => arc box (f start) (f stop) stroke

/-- The call with every scalar replaced. -/
def Call.map {α β : Type} (f : α → β) : Call α → Call β
  | surface id width height alpha => surface id width height alpha
  | fill on color => fill on color
  | blit on source x y => blit on source x y
  | circle on color x y radius => circle on color (f x) (f y) (f radius)
  | polygon on color corners => polygon on color (corners.map fun p => (f p.1, f p.2))
  | arc on color box start stop stroke => arc on color box (f start) (f stop) stroke
  | line on color x₁ y₁ x₂ y₂ => line on color x₁ y₁ x₂ y₂
  | rect on color box => rect on color box
  | init => init
  | quit => quit
  | setMode width height => setMode width height
  | setCaption text => setCaption text
  | font name size => font name size
  | startTextInput => startTextInput
  | flip => flip
  | tick framesPerSecond => tick framesPerSecond

/-- Whether scalars that stand for integers are reckoned with exactly. -/
structure Scalar.Exact {α : Type} [Scalar α] (f : Int → α) : Prop where
  whole : ∀ n, Scalar.whole n = f n
  add : ∀ a b, Scalar.add (f a) (f b) = .ok (f (a + b))
  sub : ∀ a b, Scalar.sub (f a) (f b) = .ok (f (a - b))
  mul : ∀ a b, Scalar.mul (f a) (f b) = .ok (f (a * b))
  lt : ∀ a b, Scalar.lt (f a) (f b) = decide (a < b)
  trunc : ∀ n, Scalar.trunc (f n) = .ok n

private theorem Number.exact_whole : Scalar.Exact Number.whole where
  whole _ := rfl
  add _ _ := rfl
  sub _ _ := rfl
  mul _ _ := rfl
  lt a b := by
    show decide ((a : Rat) < b) = _
    rw [decide_eq_decide, Rat.intCast_lt_intCast]
  trunc _ := rfl

private theorem exact_intCast : Scalar.Exact (Int.cast : Int → Rat) where
  whole _ := rfl
  add a b := by rw [Int.cast_add]; rfl
  sub a b := by rw [Int.cast_sub]; rfl
  mul a b := by rw [Int.cast_mul]; rfl
  lt a b := by
    show decide ((a : Rat) < b) = _
    rw [decide_eq_decide, Rat.intCast_lt_intCast]
  trunc n := by
    show Except.ok (truncate (n : Rat)) = _
    unfold truncate
    rw [Rat.num_intCast, Rat.den_intCast, Nat.cast_one, Int.tdiv_one]

namespace Shape

private theorem call_map {α : Type} (f : Int → α) (shape : Shape Int) (on : SurfaceId) (color : Color) :
    (shape.map f).call on color = (shape.call on color).map f := by
  cases shape <;> rfl

section Exact

variable {α : Type} [Scalar α] {f : Int → α}

private theorem exact_min (h : Scalar.Exact f) (a b : Int) : Scalar.min (f a) (f b) = f (Min.min a b) := by
  unfold Scalar.min
  rw [h.lt, min_def]
  grind

private theorem exact_max (h : Scalar.Exact f) (a b : Int) : Scalar.max (f a) (f b) = f (Max.max a b) := by
  unfold Scalar.max
  rw [h.lt, max_def]
  grind

end Exact

/-- The bounds of a shape of integers are found from the same numbers whatever they are reckoned with. -/
private theorem exists_bounds_map (shape : Shape Int) :
    ∃ x y width height, ∀ {α : Type} [Scalar α] {f : Int → α}, Scalar.Exact f →
      (shape.map f).bounds = region α x y width height := by
  cases shape with
  | circle x y radius =>
    refine ⟨x - radius - 1, y - radius - 1, 2 * radius + 3, 2 * radius + 3, fun h => ?_⟩
    simp only [map, bounds, h.whole, h.sub, h.mul, h.trunc, bind, Except.bind]
  | triangle a b c =>
    refine ⟨min (min a.1 b.1) c.1 - 1, min (min a.2 b.2) c.2 - 1,
      max (max a.1 b.1) c.1 - min (min a.1 b.1) c.1 + 3, max (max a.2 b.2) c.2 - min (min a.2 b.2) c.2 + 3,
      fun h => ?_⟩
    simp only [map, bounds, exact_min h, exact_max h, h.sub, h.trunc, bind, Except.bind]
  | arc box start stop stroke => exact ⟨_, _, _, _, fun _ => rfl⟩

/-- A shape of integers is moved to the same place whatever they are reckoned with. -/
private theorem exists_move_map (shape : Shape Int) (dx dy : Int) :
    ∃ moved : Shape Int, ∀ {α : Type} [Scalar α] {f : Int → α}, Scalar.Exact f →
      (shape.map f).move dx dy = .ok (moved.map f) := by
  cases shape with
  | circle x y radius =>
    refine ⟨circle (x + dx) (y + dy) radius, fun h => ?_⟩
    simp only [map, move, movePoint, h.whole, h.add, bind, Except.bind, pure, Except.pure]
  | triangle a b c =>
    refine ⟨triangle (a.1 + dx, a.2 + dy) (b.1 + dx, b.2 + dy) (c.1 + dx, c.2 + dy), fun h => ?_⟩
    simp only [map, move, movePoint, h.whole, h.add, bind, Except.bind, pure, Except.pure]
  | arc box start stop stroke => exact ⟨arc (box.move dx dy) start stop stroke, fun _ => rfl⟩

/-- What is drawn of a translucent shape of integers with the given bounds is the same whatever they are reckoned
with. -/
private theorem exists_blend_map (shape : Shape Int) (box : Rect) (on : Surface) (color : Color) (scratch : SurfaceId) :
    ∃ result : Except Fault (List (Call Int)), ∀ {α : Type} [Scalar α] {f : Int → α}, Scalar.Exact f →
      (shape.map f).bounds = .ok box → (shape.map f).blend on color scratch = result.map (·.map (Call.map f)) := by
  by_cases hempty : (box.clip on.bounds).width = 0 ∨ (box.clip on.bounds).height = 0
  · exact ⟨.ok [], fun _ hbox => blend_of_empty hbox hempty⟩
  by_cases hneg : (box.clip on.bounds).width < 0 ∨ (box.clip on.bounds).height < 0
  · exact ⟨.error .surfaceSize, fun _ hbox => blend_of_neg hbox hempty hneg⟩
  obtain ⟨moved, hmoved⟩ := exists_move_map shape (-(box.clip on.bounds).x) (-(box.clip on.bounds).y)
  refine ⟨.ok [.surface scratch (box.clip on.bounds).width (box.clip on.bounds).height true,
    moved.call scratch color,
    .blit on.id (.surface scratch) (box.clip on.bounds).x (box.clip on.bounds).y], fun h hbox => ?_⟩
  rw [blend_of_pos hbox (by omega) (by omega) (hmoved h), call_map]
  rfl

private theorem exists_paint_map (shape : Shape Int) (box : Rect) (on : Surface) (color : Color) (scratch : SurfaceId) :
    ∃ result : Except Fault (List (Call Int)), ∀ {α : Type} [Scalar α] {f : Int → α}, Scalar.Exact f →
      (shape.map f).bounds = .ok box → (shape.map f).paint on color scratch = result.map (·.map (Call.map f)) := by
  cases hc : color.alpha with
  | none =>
    refine ⟨.ok [shape.call on.id color], fun _ _ => ?_⟩
    unfold paint
    rw [hc, call_map]
    rfl
  | some alpha =>
    obtain ⟨result, hresult⟩ := exists_blend_map shape box on color scratch
    refine ⟨result, fun h hbox => ?_⟩
    rw [paint_of_alpha hc, hresult h hbox]

/-- The coordinates of a rectangle that are words stand for themselves. -/
private theorem region_of_isWords {x y width height : Int} (h : (⟨x, y, width, height⟩ : Rect).IsWords) :
    region Number x y width height = region Rat x y width height := by
  unfold region pixels
  rw [Scalar.coordinate_of_fits h.x, Scalar.coordinate_of_fits h.y, Scalar.coordinate_of_fits h.width,
    Scalar.coordinate_of_fits h.height]
  show (do
    let right ← Scalar.coordinate Number (x + width)
    let bottom ← Scalar.coordinate Number (y + height)
    return (⟨x, y, right - x, bottom - y⟩ : Rect)) = _
  rw [Scalar.coordinate_of_fits h.right, Scalar.coordinate_of_fits h.bottom]
  rfl

/-- Of a shape of integers the same is drawn with numbers as over the rationals, as long as the numbers of its bounds
are words. -/
theorem exists_paint_whole (shape : Shape Int) {box : Rect} (hbox : (shape.map (Int.cast : Int → Rat)).bounds = .ok box)
    (hwords : box.IsWords) (on : Surface) (color : Color) (scratch : SurfaceId) :
    ∃ result : Except Fault (List (Call Int)),
      (shape.map Number.whole).paint on color scratch = result.map (·.map (Call.map Number.whole)) ∧
      (shape.map (Int.cast : Int → Rat)).paint on color scratch = result.map (·.map (Call.map Int.cast)) := by
  obtain ⟨x, y, width, height, hbounds⟩ := exists_bounds_map shape
  obtain rfl : ⟨x, y, width, height⟩ = box := by
    rw [hbounds exact_intCast, region_eq] at hbox
    exact Except.ok.inj hbox
  have hnumber : (shape.map Number.whole).bounds = .ok ⟨x, y, width, height⟩ := by
    rw [hbounds Number.exact_whole, region_of_isWords hwords, region_eq]
  obtain ⟨result, hresult⟩ := exists_paint_map shape ⟨x, y, width, height⟩ on color scratch
  exact ⟨result, hresult Number.exact_whole hnumber, hresult exact_intCast hbox⟩

end Shape

end Aviary
