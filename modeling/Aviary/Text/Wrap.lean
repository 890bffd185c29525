import Aviary.Text.Chunk
import Aviary.Text.Tabs

/-!
# Lines broken into rows

A line is broken into rows of at most `columns` characters.  A row takes as many whole chunks as fit.  A chunk longer
than a row is cut: behind the last hyphen that fits on the current row if something other than hyphens stands before
it, otherwise where the row is full.

Main statements: the rows of a line, one after the other, are the line with its tabs expanded (`flatten_wrap`), and no
row is longer than `columns` (`length_le_of_mem_wrap`).
-/

namespace Aviary.Text

/-- The place behind the last hyphen among the first `room` characters of a chunk, zero if there is none. -/
def afterHyphen (room : Nat) (chunk : List Char) : Nat :=
  room - ((chunk.take room).reverse.takeWhile (· != '-')).length

/-- Where a chunk that fits on no row is cut if `room` characters are left on the current row: behind its last hyphen
within the room, unless only hyphens stand before that one, and otherwise at the end of the room. -/
def cutPoint (room : Nat) (chunk : List Char) : Nat :=
  if (chunk.take (afterHyphen room chunk - 1)).any (· != '-') then afterHyphen room chunk else room

private theorem cutPoint_le (room : Nat) (chunk : List Char) : cutPoint room chunk ≤ room := by
  unfold cutPoint afterHyphen
  split <;> omega

theorem cutPoint_pos {room : Nat} (h : 0 < room) (chunk : List Char) : 0 < cutPoint room chunk := by
  unfold cutPoint
  split
  · rename_i ha
    have h0 : afterHyphen room chunk ≠ 0 := fun h0 => by simp [h0] at ha
    omega
  · exact h

/-- Fills rows with chunks; `row` is the row begun so far. -/
def fillRows (columns : Nat) (hc : 0 < columns) (row : List Char) : List (List Char) → List (List Char)
  | [] => if row.isEmpty then [] else [row]
  | chunk :: rest =>
    if row.length + chunk.length ≤ columns then fillRows columns hc (row ++ chunk) rest
    else if chunk.length ≤ columns then row :: fillRows columns hc [] (chunk :: rest)
    else
      let n := cutPoint (columns - row.length) chunk
      (row ++ chunk.take n) :: fillRows columns hc [] (chunk.drop n :: rest)
termination_by chunks => (chunks.flatten.length + chunks.length, row.length)
decreasing_by
  · simp only [List.flatten_cons, List.length_append, List.length_cons]
    apply Prod.Lex.left
    omega
  · apply Prod.Lex.right
    simp only [List.length_nil]
    omega
  · by_cases hr : row.length < columns
    · apply Prod.Lex.left
      have hroom : 0 < columns - row.length := by omega
      have h := cutPoint_pos hroom chunk
      simp only [List.flatten_cons, List.length_append, List.length_cons, List.length_drop]
      omega
    · have h := cutPoint_le (columns - row.length) chunk
      have hn : cutPoint (columns - row.length) chunk = 0 := by omega
      rw [hn, List.drop_zero]
      apply Prod.Lex.right
      simp only [List.length_nil]
      omega

/-- The rows of a line; an empty line makes one empty row. -/
def wrap (columns : Nat) (hc : 0 < columns) (line : List Char) : List (List Char) :=
  match fillRows columns hc [] (chunks (expandTabs line)) with
  | [] => [[]]
  | row :: rows => row :: rows

private theorem flatten_fillRows (columns : Nat) (hc : 0 < columns) (row : List Char) (cs : List (List Char)) :
    (fillRows columns hc row cs).flatten = row ++ cs.flatten := by
  fun_induction fillRows columns hc row cs with
  | case1 row h => simp_all
  | case2 row h => simp
  | case3 row chunk rest h ih => simp [ih]
  | case4 row chunk rest h1 h2 ih => simp [ih]
  | case5 row chunk rest h1 h2 n ih =>
    rw [List.flatten_cons, ih, List.nil_append, List.flatten_cons, List.flatten_cons, List.append_assoc,
      ← List.append_assoc (chunk.take n), List.take_append_drop]

/-- Breaking a line loses nothing. -/
theorem flatten_wrap (columns : Nat) (hc : 0 < columns) (line : List Char) :
    (wrap columns hc line).flatten = expandTabs line := by
  have h := flatten_fillRows columns hc [] (chunks (expandTabs line))
  rw [flatten_chunks, List.nil_append] at h
  unfold wrap
  split <;> simp_all

private theorem length_le_of_mem_fillRows (columns : Nat) (hc : 0 < columns) (row : List Char)
    (cs : List (List Char)) (hrow : row.length ≤ columns) :
    ∀ r ∈ fillRows columns hc row cs, r.length ≤ columns := by
  fun_induction fillRows columns hc row cs with
  | case1 => simp
  | case2 row h => simpa using hrow
  | case3 row chunk rest h ih => exact ih (by simpa using h)
  | case4 row chunk rest h1 h2 ih =>
    intro r hr
    rcases List.mem_cons.1 hr with rfl | hr
    · exact hrow
    · exact ih (by simp) r hr
  | case5 row chunk rest h1 h2 n ih =>
    intro r hr
    rcases List.mem_cons.1 hr with rfl | hr
    · have hn : n ≤ columns - row.length := cutPoint_le _ _
      simp only [List.length_append, List.length_take]
      omega
    · exact ih (by simp) r hr

/-- No row overflows. -/
theorem length_le_of_mem_wrap {columns : Nat} {hc : 0 < columns} {line row : List Char}
    (h : row ∈ wrap columns hc line) : row.length ≤ columns := by
  have key := length_le_of_mem_fillRows columns hc [] (chunks (expandTabs line)) (by simp)
  unfold wrap at h
  split at h
  · simp_all
  · rename_i heq
    exact key row (heq ▸ h)

end Aviary.Text
