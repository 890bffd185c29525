import Aviary.Text.Ranges

/-!
# Blanks and words

A command line is cut into words at its blanks, and typed text loses the blanks at both ends.  A blank is a
character with the white-space property or one of the four information separators.

Main statements: a blank occurs in no word (`isBlank_of_mem_words`), and the words hold exactly the characters that are
no blanks (`flatten_words`).
-/

namespace Aviary.Text

/-- The white-space characters and the information separators. -/
def blanks : CharClass :=
  [(0x09, 0x0D), (0x1C, 0x20), (0x85, 0x85), (0xA0, 0xA0), (0x1680, 0x1680), (0x2000, 0x200A), (0x2028, 0x2029),
   (0x202F, 0x202F), (0x205F, 0x205F), (0x3000, 0x3000)]

def isBlank (c : Char) : Bool := blanks.has c

/-- The blanks of ASCII that separate lines and columns of text. -/
def isLayout (c : Char) : Bool :=
  c == ' ' || c == '\t' || c == '\n' || c == '\x0b' || c == '\x0c' || c == '\r'

/-- `cs` without its longest beginning and end of characters that satisfy `p`. -/
def trimBy (p : Char → Bool) (cs : List Char) : List Char :=
  ((cs.dropWhile p).reverse.dropWhile p).reverse

/-- `cs` without the blanks at both ends. -/
def trim (cs : List Char) : List Char := trimBy isBlank cs

/-- Puts a word in front of others; the empty word is no word. -/
def consWord (word : List Char) (words : List (List Char)) : List (List Char) :=
  if word.isEmpty then words else word :: words

/-- The word that the text opens with (empty where it opens with a blank) and the words after it. -/
def openingWord : List Char → List Char × List (List Char)
  | [] => ([], [])
  | c :: cs =>
    if isBlank c then ([], consWord (openingWord cs).1 (openingWord cs).2)
    else (c :: (openingWord cs).1, (openingWord cs).2)

/-- The maximal runs of characters that are no blanks, in order. -/
def words (cs : List Char) : List (List Char) :=
  consWord (openingWord cs).1 (openingWord cs).2

private theorem flatten_consWord (w : List Char) (ws : List (List Char)) :
    (consWord w ws).flatten = w ++ ws.flatten := by
  cases w <;> simp [consWord]

/-- Cutting into words loses the blanks and nothing else. -/
theorem flatten_words (cs : List Char) : (words cs).flatten = cs.filter (fun c => !isBlank c) := by
  rw [words, flatten_consWord]
  induction cs with
  | nil => rfl
  | cons c cs ih =>
    by_cases h : isBlank c <;> simp [openingWord, h, flatten_consWord, ih]

/-- No character of a word is a blank. -/
theorem isBlank_of_mem_words {cs w : List Char} (hw : w ∈ words cs) {c : Char} (hc : c ∈ w) :
    isBlank c = false := by
  have h : c ∈ (words cs).flatten := List.mem_flatten.2 ⟨w, hw, hc⟩
  rw [flatten_words] at h
  simpa using (List.mem_filter.1 h).2

end Aviary.Text
