import Aviary.Text.Printable

/-!
# Quoted text

Text that a message quotes stands between single quotes, or between double quotes if it holds a single quote and no
double one.  The surrounding quote and the backslash are written after a backslash, line feed, carriage return and
tab as `\n`, `\r`, `\t`, and every other character that is not printable by its code point in two, four or eight
hexadecimal digits.

Main statement: every character of quoted text is printable (`isPrintable_of_mem_quote`), so no line ends in it.
-/

namespace Aviary.Text

/-- The last `width` hexadecimal digits of `n`. -/
def hexDigits : Nat → Nat → List Char
  | 0, _ => []
  | width + 1, n => hexDigits width (n / 16) ++ [Nat.digitChar (n % 16)]

/-- The code point of `c` in as few of two, four or eight digits as hold it. -/
def codePoint (c : Char) : List Char :=
  if c.toNat < 0x100 then '\\' :: 'x' :: hexDigits 2 c.toNat
  else if c.toNat < 0x10000 then '\\' :: 'u' :: hexDigits 4 c.toNat
  else '\\' :: 'U' :: hexDigits 8 c.toNat

/-- How `c` is written between two quotes `mark`. -/
def escape (mark c : Char) : List Char :=
  if c = mark ∨ c = '\\' then ['\\', c]
  else if c = '\n' then ['\\', 'n']
  else if c = '\r' then ['\\', 'r']
  else if c = '\t' then ['\\', 't']
  else if isPrintable c then [c]
  else codePoint c

/-- The quote that surrounds `cs`. -/
def quoteMark (cs : List Char) : Char :=
  if '\x27' ∈ cs ∧ '\x22' ∉ cs then '\x22' else '\x27'

def quote (cs : List Char) : List Char :=
  quoteMark cs :: cs.flatMap (escape (quoteMark cs)) ++ [quoteMark cs]

/-- The quoted form of a string. -/
def quoted (s : String) : String := String.ofList (quote s.toList)

private theorem isPrintable_digitChar : ∀ d < 16, isPrintable (Nat.digitChar d) = true := by
  decide +kernel

private theorem isPrintable_of_mem_hexDigits {width n : Nat} {x : Char} (h : x ∈ hexDigits width n) :
    isPrintable x = true := by
  induction width generalizing n with
  | zero => simp [hexDigits] at h
  | succ width ih =>
    rcases List.mem_append.1 h with h | h
    · exact ih h
    · rw [List.mem_singleton.1 h]
      exact isPrintable_digitChar _ (Nat.mod_lt _ (by decide))

private theorem isPrintable_escapes : ∀ x ∈ ['\\', 'n', 'r', 't', 'x', 'u', 'U', '\x27', '\x22'],
    isPrintable x = true := by
  have key : ['\\', 'n', 'r', 't', 'x', 'u', 'U', '\x27', '\x22'].all isPrintable = true := by decide +kernel
  exact List.all_eq_true.1 key

private theorem isPrintable_of_mem_codePoint {c x : Char} (h : x ∈ codePoint c) : isPrintable x = true := by
  have key : x ∈ ['\\', 'x', 'u', 'U'] ∨ ∃ width, x ∈ hexDigits width c.toNat := by
    unfold codePoint at h
    split at h
    · grind
    · split at h <;> grind
  rcases key with hx | ⟨width, hx⟩
  · exact isPrintable_escapes x (by grind)
  · exact isPrintable_of_mem_hexDigits hx

private theorem isPrintable_of_mem_escape {mark c x : Char} (hm : mark = '\x27' ∨ mark = '\x22')
    (h : x ∈ escape mark c) : isPrintable x = true := by
  have key : x ∈ ['\\', 'n', 'r', 't', '\x27', '\x22'] ∨ isPrintable x = true ∨ x ∈ codePoint c := by
    unfold escape at h
    grind
  rcases key with hx | hx | hx
  · exact isPrintable_escapes x (by grind)
  · exact hx
  · exact isPrintable_of_mem_codePoint hx

private theorem quoteMark_eq (cs : List Char) : quoteMark cs = '\x27' ∨ quoteMark cs = '\x22' := by
  unfold quoteMark
  split <;> simp

/-- Quoted text holds printable characters only. -/
theorem isPrintable_of_mem_quote {cs : List Char} {x : Char} (h : x ∈ quote cs) : isPrintable x = true := by
  have hm := quoteMark_eq cs
  have key : x = quoteMark cs ∨ ∃ c ∈ cs, x ∈ escape (quoteMark cs) c := by
    simp only [quote, List.cons_append, List.mem_cons, List.mem_append, List.mem_flatMap, List.not_mem_nil,
      or_false] at h
    grind
  rcases key with hx | ⟨c, -, hx⟩
  · rcases hm with hm | hm <;> exact isPrintable_escapes x (by simp [hx, hm])
  · exact isPrintable_of_mem_escape hm hx

end Aviary.Text
