import Aviary.Line

/-!
# Streams

A terminal without a screen: what is printed on it is kept line by line, and written to a stream at once.

Main statement: printing lines adds their text to what was written (`written_printAll`).
-/

namespace Aviary

/-- A terminal that writes to a stream. -/
structure Stream where
  lines : List Line := []
  /-- The text written so far. -/
  written : String := ""

namespace Stream

/-- Prints a line and ends it in the stream. -/
def println (t : Stream) (line : Line) : Stream := ⟨t.lines ++ [line], t.written ++ (line.text ++ "\n")⟩

def printAll (t : Stream) (lines : List Line) : Stream := lines.foldl println t

theorem lines_printAll (t : Stream) (lines : List Line) : (t.printAll lines).lines = t.lines ++ lines := by
  unfold printAll
  induction lines generalizing t with
  | nil => simp
  | cons line lines ih => simp [ih, println]

theorem written_printAll (t : Stream) (lines : List Line) :
    (t.printAll lines).written = t.written ++ transcript lines := by
  induction lines generalizing t with
  | nil => simp [printAll, transcript]
  | cons line lines ih =>
    show ((t.println line).printAll lines).written = _
    rw [ih, transcript_cons, ← String.append_assoc]
    rfl

end Stream

end Aviary
