/-!
# Exact values of floating-point numbers

Floats are compared, rounded and printed by the rational number that they stand for.  Here a float is read as its
exact value, and integers, quotients of integers and decimals are rounded to the nearest float, a tie going to the
even one.  Nothing here depends on the size of the numbers.
-/

namespace Aviary

/-- What a number stands for: a rational number, or one of the three things that a float can be beside that. -/
inductive Value where
  | undefined
  | belowAll
  | exact (q : Rat)
  | aboveAll
  deriving DecidableEq

namespace Value

/-- The order of values; an undefined value is before and after none. -/
def lt : Value → Value → Bool
  | belowAll, exact _ => true
  | belowAll, aboveAll => true
  | exact p, exact q => p < q
  | exact _, aboveAll => true
  | _, _ => false

/-- Equality of values; an undefined value equals none. -/
def same : Value → Value → Bool
  | undefined, _ => false
  | a, b => a = b

def le (a b : Value) : Bool := a.lt b || a.same b

theorem same_iff {a b : Value} : a.same b = true ↔ a = b ∧ a ≠ undefined := by
  cases a <;> simp [same]

end Value

namespace Binary64

open Float.Model

/-- The rational number `m * 2 ^ e`. -/
def scaled (m : Int) (e : Int) : Rat :=
  if 0 ≤ e then ((m * Nat.pow 2 e.toNat : Int) : Rat) else mkRat m (Nat.pow 2 (-e).toNat)

/-- The exact value of a float. -/
def value (x : Float) : Value :=
  match x.toModel.unpack with
  | .notANumber => .undefined
  | .infinity .negative => .belowAll
  | .infinity .positive => .aboveAll
  | .zero _ => .exact 0
  | .finite .positive m e _ => .exact (scaled m e)
  | .finite .negative m e _ => .exact (scaled (-m) e)

/-- Whether the sign of a float is negative, also for a zero. -/
def isNegative (x : Float) : Bool :=
  match x.toModel.unpack with
  | .infinity .negative => true
  | .zero .negative => true
  | .finite .negative _ _ _ => true
  | _ => false

/-- An integer as a float that is not rounded yet. -/
def unrounded (n : Int) : UnpackedFloat :=
  if h : 0 < n.natAbs then .finite (if n < 0 then .negative else .positive) n.natAbs 0 h else .zero .positive

/-- The float nearest to an integer; infinite if the integer is beyond all floats. -/
def ofInt (n : Int) : Float := Float.ofModel (Float.Model.ofInt n)

/-- The float nearest to the quotient `a / b` of two integers; infinite if the quotient is beyond all floats. -/
def quotient (a b : Int) : Float :=
  Float.ofModel (.pack (UnpackedFloat.div Format.binary64 (unrounded a) (unrounded b)))

/-- The float nearest to the decimal `m * 10 ^ e`. -/
def ofDecimal (m : Nat) (e : Int) : Float := Float.ofModel (Float.Model.ofScientific m e)

def infinity : Float := Float.ofModel (.pack (.infinity .positive))

def nan : Float := Float.ofModel (.pack .notANumber)

end Binary64

/-- The integer part of a rational number: the part after the point is dropped. -/
def truncate (q : Rat) : Int := q.num.tdiv q.den

/-- The integer nearest to a rational number; a half goes to the even neighbour. -/
def roundEven (q : Rat) : Int :=
  if q - q.floor < 1 / 2 then q.floor
  else if 1 / 2 < q - q.floor then q.floor + 1
  else if q.floor % 2 = 0 then q.floor else q.floor + 1

end Aviary
