import Aviary.Number.Decimal
import Aviary.Number.Kind

/-!
# Memory

What is made as large as a number says takes memory: the pixels of a surface, arrays of numbers, lists of things.
There is memory for it or not, and one request gets one answer; which one is a parameter of everything that asks
(`Memory`).  What grows bit by bit, like the lines that are printed, asks for nothing.

An amount of memory is written in the largest unit of which it is at least one, with three digits: `711. PiB`,
`74.5 GiB`, `8.00 KiB`.
-/

namespace Aviary

/-- What memory is asked for. -/
inductive Request where
  /-- The pixels of a surface. -/
  | pixels (width height : Nat)
  /-- So many arrays of one length at a time, the last one with elements of a kind. -/
  | arrays (count length : Nat) (kind : Kind)
  /-- A list of so many things with so many numbers each. -/
  | list (length numbers : Nat)
  deriving DecidableEq

/-- Which requests there is memory for. -/
class Memory where
  holds : Request → Bool

namespace Memory

/-- How many bytes a number takes in an array. -/
def numberBytes : Nat := 8

/-- How many bytes a pixel takes on a surface. -/
def pixelBytes : Nat := 4

/-- How many bytes a thing takes in a list beside its numbers. -/
def thingBytes : Nat := 64

/-- How many bytes each number of a thing in a list takes. -/
def fieldBytes : Nat := 24

end Memory

namespace Request

/-- How many bytes are asked for. -/
def bytes : Request → Nat
  | pixels width height => width * height * Memory.pixelBytes
  | arrays count length _ => count * length * Memory.numberBytes
  | list length numbers => length * (Memory.thingBytes + numbers * Memory.fieldBytes)

/-- What the spans of an eye ask for, one after the other: an array with the numbers of its cells, beside it one with
their starts, and a list with the two ends of each. -/
def spans (cells : Nat) (kind : Kind) : List Request := [arrays 1 cells kind, arrays 2 cells .real, list cells 2]

end Request

namespace Memory

/-- Memory for whatever takes no more than so many bytes. -/
@[reducible] def ofSize (size : Nat) : Memory where
  holds r := r.bytes ≤ size

/-- The memory of the program where nothing else is said. -/
instance : Memory := .ofSize (32 * 1024 * 1024 * 1024)

/-- The units of memory, each 1024 times the one before. -/
def units : List String := ["bytes", "KiB", "MiB", "GiB", "TiB", "PiB", "EiB"]

/-- An amount of memory in the unit with the given position. -/
def inUnit (bytes position : Nat) : Rat := mkRat bytes (Nat.pow 1024 position)

/-- The position of the unit that an amount is written in: the largest one of which there is at least one, also after
rounding. -/
def unitFor (bytes : Nat) : Nat :=
  let k := bytes.log2 / 10
  min (if roundEven (inUnit bytes k) = 1024 then k + 1 else k) (units.length - 1)

/-- The rational number `q ≥ 1` with three digits, or with all before the point if there are more. -/
def threeDigits (q : Rat) : List Char :=
  if roundEven (q * 100) < 1000 then Decimal.places 2 q
  else if roundEven (q * 10) < 1000 then Decimal.places 1 q
  else Decimal.places 0 q ++ ['.']

/-- The text of an amount of memory. -/
def text (bytes : Nat) : String :=
  let k := unitFor bytes
  let amount := inUnit bytes k
  String.ofList (if k = 0 then Decimal.places 0 amount else threeDigits amount) ++ " " ++ units.getD k ""

end Memory

end Aviary
