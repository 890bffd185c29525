/-!
# Words

The coordinates of pixels and the sizes of surfaces are signed words of 32 bits.  An integer of up to 64 bits stands
for the word that its low 32 bits make, and a larger one for none.

Main statement: a word stands for itself (`ofInt?_of_fits`).
-/

namespace Aviary.Word

/-- Whether an integer is a word. -/
def Fits (n : Int) : Prop := -0x80000000 ≤ n ∧ n < 0x80000000

instance (n : Int) : Decidable (Fits n) := by unfold Fits; infer_instance

/-- The word that an integer stands for. -/
def ofInt? (n : Int) : Option Int :=
  if -0x8000000000000000 ≤ n ∧ n < 0x8000000000000000 then some (n.bmod 0x100000000) else none

theorem ofInt?_of_fits {n : Int} (h : Fits n) : ofInt? n = some n := by
  obtain ⟨h, h'⟩ := h
  have hn : n.bmod 0x100000000 = n := Int.bmod_eq_of_le_mul_two (by omega) (by omega)
  unfold ofInt?
  rw [if_pos (by omega), hn]

end Aviary.Word
