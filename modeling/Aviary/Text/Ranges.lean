/-!
# Classes of characters

A class of characters is given by the closed ranges of code points that it consists of.
-/

namespace Aviary.Text

/-- A class of characters: its closed ranges of code points, in increasing order. -/
abbrev CharClass := List (Nat × Nat)

/-- Whether `c` lies in one of the ranges of the class. -/
def CharClass.has (ranges : CharClass) (c : Char) : Bool :=
  ranges.any fun r => r.1 ≤ c.toNat && c.toNat ≤ r.2

theorem CharClass.has_iff {ranges : CharClass} {c : Char} :
    ranges.has c = true ↔ ∃ r ∈ ranges, r.1 ≤ c.toNat ∧ c.toNat ≤ r.2 := by
  simp [CharClass.has]

end Aviary.Text
