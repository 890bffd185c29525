import Aviary.Number

/-!
# Scalars

Geometry is written once for every kind of number that has the operations below: for numbers as they are configured
and drawn, and for the rationals, where nothing is rounded, nothing fails and pixels lie as far out as they like.
-/

namespace Aviary

/-- The arithmetic that geometry needs. -/
class Scalar (α : Type) where
  whole : Int → α
  add : α → α → Except Fault α
  sub : α → α → Except Fault α
  mul : α → α → Except Fault α
  div : α → α → Except Fault α
  half : α → Except Fault α
  lt : α → α → Bool
  le : α → α → Bool
  /-- The integer part. -/
  trunc : α → Except Fault Int
  /-- The coordinate of a pixel that an integer stands for.  No scalar is in it: it is here because it goes with how
  exact a drawing is.  The coordinates of a rectangle are words of 32 bits where one draws with numbers; where one draws
  with rationals, they are any integers. -/
  coordinate : Int → Except Fault Int

/-- Scalars that the cells of an eye are counted with. -/
class Counts (α : Type) where
  /-- How many integers there are from zero up to a scalar, the scalar itself excluded. -/
  count : α → Except Fault Nat

instance : Scalar Number where
  whole := Number.whole
  add := Number.add
  sub := Number.sub
  mul := Number.mul
  div := Number.div
  half := Number.half
  lt := Number.lt
  le := Number.le
  trunc := Number.trunc
  coordinate := Number.coordinate

instance : Scalar Rat where
  whole n := n
  add a b := .ok (a + b)
  sub a b := .ok (a - b)
  mul a b := .ok (a * b)
  div a b := .ok (a / b)
  half a := .ok (a / 2)
  lt a b := a < b
  le a b := a ≤ b
  trunc a := .ok (truncate a)
  coordinate n := .ok n

instance [Memory] : Counts Number := ⟨Number.count⟩

instance : Counts Rat := ⟨fun a => .ok a.ceil.toNat⟩

namespace Scalar

variable {α : Type} [Scalar α]

/-- The smaller of two scalars; the first if neither is smaller. -/
def min (a b : α) : α := if lt b a then b else a

/-- The larger of two scalars; the first if neither is larger. -/
def max (a b : α) : α := if lt a b then b else a

/-- The coordinate that a word stands for is the word, also where one draws with numbers. -/
theorem coordinate_of_fits {n : Int} (h : Word.Fits n) : coordinate Number n = .ok n := by
  show Number.coordinate n = _
  unfold Number.coordinate
  rw [Word.ofInt?_of_fits h]

end Scalar

end Aviary
