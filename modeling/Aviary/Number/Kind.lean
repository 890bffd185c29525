/-!
# Kinds of numbers
-/

namespace Aviary

/-- The two kinds of numbers: integers and floats. -/
inductive Kind where
  | whole
  | real
  deriving DecidableEq

/-- How a kind of number is called in a message. -/
def Kind.phrase : Kind → String
  | whole => "an integer"
  | real => "a number"

/-- How a kind of number is called as what an array consists of. -/
def Kind.element : Kind → String
  | whole => "int64"
  | real => "float64"

end Aviary
