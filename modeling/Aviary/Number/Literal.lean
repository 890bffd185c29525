import Aviary.Text.Blank
import Aviary.Text.Digit
import Aviary.Number.Binary64

/-!
# Written numbers

The two grammars in which numbers are typed.  An integer is an optional sign and decimal digits of any script, at most
`maxDigits` of them.  A float is an optional sign followed by digits with an optional point and exponent, or by one of
the words for infinity and for an undefined value.  In both a single underscore may stand between two digits, and
blanks other than the information separators may surround the number.
-/

namespace Aviary.Literal

open Text

/-- The most digits an integer may be written with. -/
def maxDigits : Nat := 4300

/-- A blank that may surround a number: not an information separator. -/
def isSurround (c : Char) : Bool := isBlank c && !(0x1C ≤ c.toNat && c.toNat ≤ 0x1F)

/-- The number that a list of decimal digits stands for. -/
def ofDigits (ds : List Nat) : Nat := ds.foldl (fun n d => 10 * n + d) 0

/-- Splits off a sign; the flag says whether it is a minus. -/
def sign : List Char → Bool × List Char
  | '-' :: cs => (true, cs)
  | '+' :: cs => (false, cs)
  | cs => (false, cs)

/-- The values of a non-empty run of digits, in which single underscores may stand between digits. -/
def groupedDigits? : List Char → Option (List Nat)
  | [] => none
  | [c] => (digitValue? c).map ([·])
  | c :: '_' :: cs => do return (← digitValue? c) :: (← groupedDigits? cs)
  | c :: cs => do return (← digitValue? c) :: (← groupedDigits? cs)

/-- Reads an integer. -/
def integer? (cs : List Char) : Option Int := do
  let (negative, body) := sign (trimBy isSurround cs)
  let ds ← groupedDigits? body
  if maxDigits < ds.length then none
  else some (if negative then -(ofDigits ds : Int) else ofDigits ds)

/-- Drops the underscores of `cs`, which follows `before`; each has to stand between two digits. -/
def dropUnderscores? (before : Char) : List Char → Option (List Char)
  | [] => some []
  | '_' :: cs =>
    match cs with
    | c :: _ => if isDigit before && isDigit c then dropUnderscores? '_' cs else none
    | [] => none
  | c :: cs => (dropUnderscores? c cs).map (c :: ·)

/-- The values of the digits that `cs` starts with, and the rest. -/
def digitRun : List Char → List Nat × List Char
  | [] => ([], [])
  | c :: cs =>
    match digitValue? c with
    | some d => (d :: (digitRun cs).1, (digitRun cs).2)
    | none => ([], c :: cs)

/-- Reads an exponent part up to the end: nothing, or the letter, an optional sign and digits. -/
def exponent? : List Char → Option Int
  | [] => some 0
  | c :: cs =>
    if c.toLower = 'e' then
      let (negative, body) := sign cs
      match digitRun body with
      | (d :: ds, []) => some (if negative then -(ofDigits (d :: ds) : Int) else ofDigits (d :: ds))
      | _ => none
    else none

/-- Reads digits with an optional point and exponent, as a mantissa and a power of ten. -/
def decimal? (cs : List Char) : Option (Nat × Int) :=
  let (whole, afterWhole) := digitRun cs
  let (part, afterPart) := match afterWhole with
    | '.' :: rest => digitRun rest
    | _ => ([], afterWhole)
  if whole.isEmpty && part.isEmpty then none
  else (exponent? afterPart).map fun e => (ofDigits (whole ++ part), e - part.length)

/-- Reads a number without its sign. -/
def magnitude? (cs : List Char) : Option Float :=
  let word := cs.map Char.toLower
  if word = "inf".toList ∨ word = "infinity".toList then some Binary64.infinity
  else if word = "nan".toList then some Binary64.nan
  else (decimal? cs).map fun d => Binary64.ofDecimal d.1 d.2

/-- Reads a float. -/
def float? (cs : List Char) : Option Float := do
  let (negative, body) := sign (← dropUnderscores? ' ' (trimBy isSurround cs))
  let x ← magnitude? body
  return if negative then -x else x

end Aviary.Literal
