import Aviary.Number.Binary64

/-!
# Decimal text of floats

A float is written with the fewest digits that read back as the same float, of several such decimals the nearest one.
A value from `10 ^ -4` up to `10 ^ 16` is written positionally with at least one digit after the point, any other with
an exponent of at least two digits.  A fixed number of places rounds the exact value, a half to the even neighbour.
-/

namespace Aviary.Decimal

/-- The decimal digits of a natural number. -/
def digits (n : Nat) : List Char := Nat.toDigits 10 n

/-- A positive fraction together with the ends of the interval of numbers that round to it. -/
structure Interval where
  low : Nat
  value : Nat
  high : Nat
  den : Nat
  closed : Bool

/-- The numbers that round to the float `m * 2 ^ e`: half a step to either side, but half of a half step below a power
of two, where the step is smaller.  The ends belong to it if the mantissa is even. -/
def Interval.ofFloat (m : Nat) (e : Int) : Interval :=
  let unit := Nat.pow 2 e.toNat
  let below := if m = 0x10000000000000 ∧ -1074 < e then 1 else 2
  { low := (4 * m - below) * unit, value := 4 * m * unit, high := (4 * m + 2) * unit, den := 4 * Nat.pow 2 (-e).toNat,
    closed := m % 2 = 0 }

/-- The interval multiplied by `10 ^ s`. -/
def Interval.shift (i : Interval) (s : Int) : Interval :=
  let up := Nat.pow 10 s.toNat
  { i with low := i.low * up, value := i.value * up, high := i.high * up, den := i.den * Nat.pow 10 (-s).toNat }

/-- Whether the integer `d` lies in the interval. -/
def Interval.holds (i : Interval) (d : Nat) : Bool :=
  if i.closed then i.low ≤ d * i.den && d * i.den ≤ i.high else i.low < d * i.den && d * i.den < i.high

/-- The integer of the interval nearest to its value; a tie goes to the even one. -/
def Interval.nearest? (i : Interval) : Option Nat :=
  let d := i.value / i.den
  match i.holds d, i.holds (d + 1) with
  | false, false => none
  | true, false => some d
  | false, true => some (d + 1)
  | true, true =>
    let twice := 2 * (i.value % i.den)
    if twice < i.den ∨ twice = i.den ∧ d % 2 = 0 then some d else some (d + 1)

/-- The position of the decimal point: the least `p` from `p₀` on, at most `fuel` steps up, such that the value is
below `10 ^ p`. -/
def Interval.pointFrom (i : Interval) (p₀ : Int) : Nat → Int
  | 0 => p₀
  | fuel + 1 => if (i.shift (-p₀)).value < (i.shift (-p₀)).den then p₀ else i.pointFrom (p₀ + 1) fuel

/-- The position `p` of the decimal point: `10 ^ (p - 1) ≤ value < 10 ^ p`.  The search starts at an estimate from the
binary logarithm that is never too large and at most three too small. -/
def Interval.point (i : Interval) : Int :=
  i.pointFrom ((((i.value.log2 : Int) - i.den.log2 - 1) * 30103).fdiv 100000) 4

/-- The first of the counts of digits `k`, `k + 1`, … for which a decimal lies in the interval, as that decimal's
digits and their count. -/
def Interval.shortestFrom (i : Interval) (p : Int) (k : Nat) : Nat → Nat × Nat
  | 0 => (i.value / i.den, k)
  | fuel + 1 =>
    match (i.shift (k - p)).nearest? with
    | some d => (d, k)
    | none => i.shortestFrom p (k + 1) fuel

/-- The characters of `d` without the zeros at the end. -/
def significant (d : Nat) : List Char := ((digits d).reverse.dropWhile (· = '0')).reverse

/-- The digits of the shortest decimal that reads back as the float `m * 2 ^ e`, and the position of its point. -/
def shortest (m : Nat) (e : Int) : List Char × Int :=
  let i := Interval.ofFloat m e
  let p := i.point
  let (d, k) := i.shortestFrom p 1 17
  (significant d, p + ((digits d).length - k))

/-- `cs` and as many zeros behind it as make up `width` characters. -/
def padRight (width : Nat) (cs : List Char) : List Char := cs ++ List.replicate (width - cs.length) '0'

/-- `cs` and as many zeros before it as make up `width` characters. -/
def padLeft (width : Nat) (cs : List Char) : List Char := List.replicate (width - cs.length) '0' ++ cs

/-- The value `0.ds * 10 ^ p` written positionally. -/
def positional (ds : List Char) (p : Int) : List Char :=
  if p ≤ 0 then '0' :: '.' :: List.replicate (-p).toNat '0' ++ ds
  else
    let whole := (padRight p.toNat ds).take p.toNat
    let part := ds.drop p.toNat
    whole ++ '.' :: (if part.isEmpty then ['0'] else part)

/-- The value `0.ds * 10 ^ p` written with one digit before the point and an exponent. -/
def scientific (ds : List Char) (p : Int) : List Char :=
  let part := ds.drop 1
  let e := p - 1
  ds.take 1 ++ (if part.isEmpty then [] else '.' :: part) ++ 'e' :: (if e < 0 then '-' else '+')
    :: padLeft 2 (digits e.natAbs)

/-- The text of a float. -/
def text (x : Float) : String :=
  match x.toModel.unpack with
  | .notANumber => "nan"
  | .infinity .negative => "-inf"
  | .infinity .positive => "inf"
  | .zero .negative => "-0.0"
  | .zero .positive => "0.0"
  | .finite _ m e _ =>
    let (ds, p) := shortest m e
    let body := if -4 < p ∧ p ≤ 16 then positional ds p else scientific ds p
    String.ofList (if Binary64.isNegative x then '-' :: body else body)

/-- The rational number `q ≥ 0` with `places` digits after the point. -/
def places (n : Nat) (q : Rat) : List Char :=
  let one := Nat.pow 10 n
  let units := (roundEven (q * one)).toNat
  digits (units / one) ++ (if n = 0 then [] else '.' :: padLeft n (digits (units % one)))

/-- The text of a float with `n` digits after the point. -/
def fixed (n : Nat) (x : Float) : String :=
  match Binary64.value x with
  | .undefined => "nan"
  | .belowAll => "-inf"
  | .aboveAll => "inf"
  | .exact q =>
    let body := places n (if q < 0 then -q else q)
    String.ofList (if Binary64.isNegative x then '-' :: body else body)

end Aviary.Decimal
