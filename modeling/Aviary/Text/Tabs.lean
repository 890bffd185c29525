/-!
# Tab stops

A tab is replaced by the spaces up to the next column divisible by eight; a line feed and a carriage return go back to
the first column.

Main statement: only the empty text expands to the empty text (`expandTabs_eq_nil_iff`).
-/

namespace Aviary.Text

def tabWidth : Nat := 8

/-- `expandFrom column cs` is `cs`, which starts at `column`, with its tabs replaced by spaces. -/
def expandFrom (column : Nat) : List Char → List Char
  | [] => []
  | c :: cs =>
    if c = '\t' then
      let gap := tabWidth - column % tabWidth
      List.replicate gap ' ' ++ expandFrom (column + gap) cs
    else if c = '\n' ∨ c = '\r' then c :: expandFrom 0 cs
    else c :: expandFrom (column + 1) cs

def expandTabs (cs : List Char) : List Char := expandFrom 0 cs

private theorem expandFrom_eq_nil_iff (cs : List Char) : ∀ column, expandFrom column cs = [] ↔ cs = [] := by
  cases cs with
  | nil => simp [expandFrom]
  | cons c cs =>
    intro column
    have hw : column % tabWidth < tabWidth := Nat.mod_lt _ (by decide)
    unfold expandFrom
    split
    · simp; omega
    · split <;> simp

/-- Only the empty text expands to the empty text. -/
theorem expandTabs_eq_nil_iff {cs : List Char} : expandTabs cs = [] ↔ cs = [] := expandFrom_eq_nil_iff cs 0

end Aviary.Text
