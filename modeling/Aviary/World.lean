import Aviary.Number

/-!
# Worlds

What an engine shows of a simulation: where the food lies, and where the animals are, which way they face and how much
each cell of their eyes senses.  Positions are in the unit square, angles in radians, energies between zero and one,
but an engine is not held to any of this.
-/

namespace Aviary

structure Food where
  x : Number
  y : Number
  deriving DecidableEq

structure Animal where
  x : Number
  y : Number
  rotation : Number
  /-- The energy that each cell of the eye senses, first cell first. -/
  vision : List Number
  deriving DecidableEq

structure World where
  animals : List Animal
  foods : List Food
  deriving DecidableEq

end Aviary
