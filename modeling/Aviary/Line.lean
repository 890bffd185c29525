/-!
# Lines

What is printed on a terminal is a list of lines.  A line is missing where an engine has no summary to give.

Main statement: the text of lines printed one after the other is the text of the first and then of the rest
(`transcript_append`).
-/

namespace Aviary

/-- A printed line, which may be missing. -/
abbrev Line := Option String

namespace Line

/-- The lines of the given texts. -/
def ofTexts (texts : List String) : List Line := texts.map some

/-- The text written for a line. -/
def text : Line → String
  | some text => text
  | none => "None"

end Line

/-- The text that printed lines make up. -/
def transcript (lines : List Line) : String := String.join (lines.map (·.text ++ "\n"))

theorem transcript_cons (line : Line) (lines : List Line) :
    transcript (line :: lines) = line.text ++ "\n" ++ transcript lines := by
  unfold transcript
  rw [List.map_cons, String.join_cons]

theorem transcript_append (a b : List Line) : transcript (a ++ b) = transcript a ++ transcript b := by
  unfold transcript
  rw [List.map_append, String.join_append]

end Aviary
