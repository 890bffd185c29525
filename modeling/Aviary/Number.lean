import Aviary.Fault
import Aviary.Memory
import Aviary.Number.Decimal
import Aviary.Number.Word

/-!
# Numbers

A number is an integer of any size or a float, and stays what it is: arithmetic on integers is exact, a float makes
the result a float, and `1` and `1.0` are different numbers with the same value.  Comparison goes by the exact value.
What has no result is a fault.

Main statement: two numbers are equal as numbers if and only if they have the same defined value (`same_iff`).
-/

namespace Aviary

inductive Number where
  | whole (n : Int)
  | real (x : Float)
  deriving DecidableEq

namespace Number

instance : Inhabited Number := ⟨whole 0⟩

def kind : Number → Kind
  | whole _ => .whole
  | real _ => .real

/-- The exact value of a number. -/
def value : Number → Value
  | whole n => .exact n
  | real x => Binary64.value x

/-- Whether two numbers have the same value, whatever their kinds.  An undefined float equals nothing. -/
def same (a b : Number) : Bool := a.value.same b.value

/-- Whether `a` is less than `b`. -/
def lt (a b : Number) : Bool := a.value.lt b.value

/-- Whether `a` is less than `b` or has the same value. -/
def le (a b : Number) : Bool := a.value.le b.value

theorem same_iff {a b : Number} : a.same b = true ↔ a.value = b.value ∧ a.value ≠ .undefined := Value.same_iff

/-- The written form of a number. -/
def text : Number → String
  | whole n => toString n
  | real x => Decimal.text x

/-- The float nearest to a number. -/
def toFloat : Number → Except Fault Float
  | whole n => if (Binary64.ofInt n).isInf then .error .integerTooLarge else .ok (Binary64.ofInt n)
  | real x => .ok x

def neg : Number → Number
  | whole n => whole (-n)
  | real x => real (-x)

def add : Number → Number → Except Fault Number
  | whole a, whole b => .ok (whole (a + b))
  | a, b => do return real ((← a.toFloat) + (← b.toFloat))

def sub : Number → Number → Except Fault Number
  | whole a, whole b => .ok (whole (a - b))
  | a, b => do return real ((← a.toFloat) - (← b.toFloat))

def mul : Number → Number → Except Fault Number
  | whole a, whole b => .ok (whole (a * b))
  | a, b => do return real ((← a.toFloat) * (← b.toFloat))

/-- The quotient of two numbers, a float in every case: that of two integers is rounded once. -/
def div : Number → Number → Except Fault Number
  | whole a, whole b =>
    if b = 0 then .error .divisionByZero
    else if (Binary64.quotient a b).isInf then .error .quotientTooLarge
    else .ok (real (Binary64.quotient a b))
  | a, b => do
    let x ← a.toFloat
    let y ← b.toFloat
    if y == 0 then .error .divisionByZero else return real (x / y)

/-- Half of a number, as a float. -/
def half (a : Number) : Except Fault Number := do return real ((← a.toFloat) / 2.0)

/-- The integer that `f` makes of a number's value; an integer stays as it is. -/
def toInt (f : Rat → Int) : Number → Except Fault Int
  | whole n => .ok n
  | real x =>
    match Binary64.value x with
    | .undefined => .error .undefinedInteger
    | .exact q => .ok (f q)
    | _ => .error .infiniteInteger

/-- The integer part of a number. -/
def trunc : Number → Except Fault Int := toInt truncate

/-- The integer nearest to a number; a half goes to the even neighbour. -/
def round : Number → Except Fault Int := toInt roundEven

/-- How many integers there are from zero up to a float, the float itself excluded.  A length is a signed word of 64
bits, so the first power of two beyond all words counts as a negative length, of nothing. -/
def countFloat (x : Float) : Except Fault Nat :=
  match Binary64.value x with
  | .undefined => .error .undefinedLength
  | .belowAll => .error .excessiveLength
  | .aboveAll => .error .excessiveLength
  | .exact q =>
    if 0x8000000000000000 < q then .error .excessiveLength
    else if q = 0x8000000000000000 then .ok 0
    else if 0x1000000000000000 ≤ q then .error .oversizedLength
    else .ok q.ceil.toNat

/-- How many integers there are from zero up to a number, the number itself excluded.  An integer that has no float of
its own is counted by the nearest one. -/
def extent : Number → Except Fault Nat
  | whole n => if n < 0x20000000000000 then .ok n.toNat else countFloat (Binary64.ofInt n)
  | real x => countFloat x

/-- How many integers there are from zero up to a number, if the spans of so many cells can be made. -/
def count [Memory] (a : Number) : Except Fault Nat := do
  let n ← a.extent
  Memory.grant (Request.spans n a.kind)
  return n

/-- The coordinate of a pixel that an integer stands for. -/
def coordinate (n : Int) : Except Fault Int :=
  match Word.ofInt? n with
  | some n => .ok n
  | none => .error .notCoordinate

/-- A function of an angle, which has to be finite. -/
def ofAngle (f : Float → Float) (a : Number) : Except Fault Float := do
  let x ← a.toFloat
  if x.isInf then .error .outsideDomain else return f x

/-- The larger of a float and a number; the float if neither is larger. -/
def maxWith (x : Float) (a : Number) : Number := if (real x).lt a then a else real x

end Number

end Aviary
