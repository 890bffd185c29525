import Aviary.Text.Blank
import Aviary.Text.Letter

/-!
# Unbreakable chunks

Before a line is broken into rows it is cut into chunks, between which it may be broken: runs of layout blanks, dashes
between two words, and words.  A word also ends behind a hyphen that has two letters on either side of it, so that
`hand-made` makes two chunks, and before a dash.

Main statement: the chunks of a text are its pieces in order (`flatten_chunks`).
-/

namespace Aviary.Text

/-- A character after which a dash of two or more hyphens is a chunk of its own. -/
def isDashContext (c : Char) : Bool :=
  isWordChar c || c == '!' || c == '"' || c == '\x27' || c == '&' || c == '.' || c == ',' || c == '?'

/-- How many hyphens the text starts with. -/
def hyphens (cs : List Char) : Nat := (cs.takeWhile (· == '-')).length

/-- The length of the dash that the text starts with: two or more hyphens before a word character, behind a character
that admits one.  `behind` is the text so far, its last character first.  Without such a dash the length is zero. -/
def dashLength (behind cs : List Char) : Nat :=
  match behind, cs.drop (hyphens cs) with
  | b :: _, c :: _ => if isDashContext b && isWordChar c && 2 ≤ hyphens cs then hyphens cs else 0
  | _, _ => 0

/-- Whether two letters, or two single letters joined by a hyphen, end the text so far. -/
def endsInLetters : List Char → Bool
  | b :: '-' :: d :: _ => isLetter b && isLetter d
  | b :: d :: _ => isLetter b && isLetter d
  | _ => false

/-- Whether the text starts with two letters, between which a hyphen may stand. -/
def startsWithLetters : List Char → Bool
  | c :: '-' :: d :: _ => isLetter c && isLetter d
  | c :: d :: _ => isLetter c && isLetter d
  | _ => false

/-- Whether a word may be broken behind the hyphen that the text starts with. -/
def isBreakableHyphen (behind cs : List Char) : Bool :=
  match cs with
  | '-' :: rest => endsInLetters behind && startsWithLetters rest
  | _ => false

/-- Whether the text is at its end or starts with a layout blank. -/
def isWordEnd : List Char → Bool
  | [] => true
  | c :: _ => isLayout c

/-- The length of the word that `cs` starts with: at least one character, then up to a breakable hyphen (which it
includes), the end of the word or a dash. -/
def wordLength (behind : List Char) : List Char → Nat
  | [] => 0
  | c :: cs =>
    if isBreakableHyphen (c :: behind) cs then 2
    else if isWordEnd cs || dashLength (c :: behind) cs ≠ 0 then 1
    else wordLength (c :: behind) cs + 1

/-- The length of the chunk that `cs` starts with. -/
def chunkLength (behind cs : List Char) : Nat :=
  if isWordEnd cs then (cs.takeWhile isLayout).length
  else if dashLength behind cs ≠ 0 then dashLength behind cs
  else wordLength behind cs

private theorem wordLength_pos (behind : List Char) {cs : List Char} (h : cs ≠ []) : 0 < wordLength behind cs := by
  cases cs with
  | nil => contradiction
  | cons c cs =>
    unfold wordLength
    split
    · omega
    · split <;> omega

/-- A chunk has at least one character. -/
private theorem chunkLength_pos (behind : List Char) {cs : List Char} (h : cs ≠ []) : 0 < chunkLength behind cs := by
  unfold chunkLength
  split
  · rename_i hw
    cases cs with
    | nil => contradiction
    | cons c cs =>
      have hc : isLayout c = true := hw
      simp [hc]
  · split
    · omega
    · exact wordLength_pos behind h

/-- The chunks of `cs`, which follows `behind`. -/
def chunksFrom (behind : List Char) : List Char → List (List Char)
  | [] => []
  | c :: cs =>
    let n := chunkLength behind (c :: cs)
    (c :: cs).take n :: chunksFrom (((c :: cs).take n).reverse ++ behind) ((c :: cs).drop n)
termination_by cs => cs.length
decreasing_by
  have h := chunkLength_pos behind (List.cons_ne_nil c cs)
  simp only [List.length_drop, List.length_cons]
  omega

/-- The chunks that a text consists of, in order. -/
def chunks (cs : List Char) : List (List Char) := chunksFrom [] cs

private theorem flatten_chunksFrom (behind cs : List Char) : (chunksFrom behind cs).flatten = cs := by
  fun_induction chunksFrom behind cs with
  | case1 => rfl
  | case2 behind c cs n ih => rw [List.flatten_cons, ih, List.take_append_drop]

/-- The chunks of a text, one after the other, are the text. -/
theorem flatten_chunks (cs : List Char) : (chunks cs).flatten = cs := flatten_chunksFrom [] cs

end Aviary.Text
