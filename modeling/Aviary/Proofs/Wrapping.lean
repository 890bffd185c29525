import Mathlib.Data.List.Forall2
import Mathlib.Data.List.Induction
import Aviary.Panel

/-!
# Rows of text

What the rows of a line are, said without the way in which they are filled (`Wraps`): one after the other they are the
line with its tabs expanded, none is longer than there are columns, none is empty unless the line is, and a word that
fits on a row stands on one row.  Words are maximal runs without layout blanks.  A word without a hyphen is a chunk of
its own (`exists_chunksFrom_eq`), and a chunk that fits on a row is not cut (`onRow_fillRows`).  The main statement is
`rows_wraps`.
-/

namespace Aviary

namespace Text

/-- The column behind a character that stands at `column`. -/
def nextColumn (column : Nat) (c : Char) : Nat := if c = '\n' ∨ c = '\r' then 0 else column + 1

/-- The column behind a text without tabs. -/
def columnBehind (cs : List Char) : Nat := cs.foldl nextColumn 0

/-- Whether a text is another one with its tabs expanded: a tab becomes one to eight spaces, so many that the column
behind them is divisible by eight. -/
inductive Expands : List Char → List Char → Prop
  | nil : Expands [] []
  | tab {cs es : List Char} {gap : Nat} (h : Expands cs es) (hpos : 1 ≤ gap) (hle : gap ≤ 8)
      (hstop : 8 ∣ columnBehind es + gap) : Expands (cs ++ ['\t']) (es ++ List.replicate gap ' ')
  | char {cs es : List Char} {c : Char} (h : Expands cs es) (hc : c ≠ '\t') : Expands (cs ++ [c]) (es ++ [c])

/-- Whether `word` is a maximal run of characters other than layout blanks, with `before` and `after` around it. -/
structure WordIn (text before word after : List Char) : Prop where
  text_eq : text = before ++ word ++ after
  ne_nil : word ≠ []
  solid : ∀ c ∈ word, isLayout c = false
  opens : ∀ c ∈ before.getLast?, isLayout c = true
  closes : ∀ c ∈ after.head?, isLayout c = true

/-- Whether a text stands on one of some rows, behind `before`. -/
def OnRow (rows : List (List Char)) (before text : List Char) : Prop :=
  ∃ above front back below, rows = above ++ (front ++ text ++ back) :: below ∧ above.flatten ++ front = before

/-- Whether `rows` are the rows of a line. -/
structure Wraps (columns : Nat) (line : List Char) (rows : List (List Char)) : Prop where
  ne_nil : rows ≠ []
  length_le : ∀ row ∈ rows, row.length ≤ columns
  eq_of_nil : line = [] → rows = [[]]
  ne_nil_of_mem : line ≠ [] → ∀ row ∈ rows, row ≠ []
  expands : Expands line rows.flatten
  onRow : ∀ before word after, WordIn rows.flatten before word after → '-' ∉ word → word.length ≤ columns →
    OnRow rows before word

/-! ### Tabs -/

private theorem expandFrom_tab (column : Nat) (cs : List Char) :
    expandFrom column ('\t' :: cs) =
      List.replicate (8 - column % 8) ' ' ++ expandFrom (column + (8 - column % 8)) cs := by
  simp [expandFrom, tabWidth]

private theorem expandFrom_char (column : Nat) {c : Char} (hc : c ≠ '\t') (cs : List Char) :
    expandFrom column (c :: cs) = c :: expandFrom (nextColumn column c) cs := by
  unfold nextColumn
  split <;> simp [expandFrom, *]

private theorem foldl_nextColumn_spaces (column n : Nat) :
    (List.replicate n ' ').foldl nextColumn column = column + n := by
  induction n generalizing column with
  | zero => rfl
  | succ n ih =>
    show (List.replicate n ' ').foldl nextColumn (column + 1) = _
    rw [ih]
    omega

/-- What stands at the end of a text is expanded from the column behind the rest. -/
private theorem expandFrom_concat (column : Nat) (cs : List Char) (c : Char) :
    expandFrom column (cs ++ [c]) =
      expandFrom column cs ++ expandFrom ((expandFrom column cs).foldl nextColumn column) [c] := by
  induction cs generalizing column with
  | nil => rfl
  | cons d cs ih =>
    rw [List.cons_append]
    by_cases hd : d = '\t'
    · rw [hd, expandFrom_tab, expandFrom_tab, ih, List.foldl_append, foldl_nextColumn_spaces, List.append_assoc]
    · rw [expandFrom_char column hd, expandFrom_char column hd, ih, List.foldl_cons, List.cons_append]

private theorem expands_expandTabs (cs : List Char) : Expands cs (expandTabs cs) := by
  induction cs using List.reverseRecOn with
  | nil => exact .nil
  | append_singleton cs c ih =>
    show Expands _ (expandFrom 0 (cs ++ [c]))
    rw [expandFrom_concat]
    show Expands _ (expandTabs cs ++ expandFrom (columnBehind (expandTabs cs)) [c])
    by_cases hc : c = '\t'
    · subst hc
      have hmod : columnBehind (expandTabs cs) % 8 < 8 := Nat.mod_lt _ (by decide)
      rw [expandFrom_tab, expandFrom, List.append_nil]
      exact .tab ih (by omega) (by omega) (by omega)
    · rw [expandFrom_char _ hc, expandFrom]
      exact .char ih hc

/-! ### Words are chunks -/

private theorem not_hyphen_of_isLayout {c : Char} (h : isLayout c = true) : c ≠ '-' := by
  rintro rfl
  revert h
  decide

private theorem dashLength_eq_zero {cs : List Char} (behind : List Char) (h : cs.head? ≠ some '-') :
    dashLength behind cs = 0 := by
  have hyphens_eq : hyphens cs = 0 := by
    cases cs with
    | nil => rfl
    | cons c cs =>
      have hc : c ≠ '-' := by simpa using h
      simp [hyphens, hc]
  unfold dashLength
  split
  · simp [hyphens_eq]
  · rfl

private theorem isBreakableHyphen_eq_false {cs : List Char} (behind : List Char) (h : cs.head? ≠ some '-') :
    isBreakableHyphen behind cs = false := by
  unfold isBreakableHyphen
  split
  · simp at h
  · rfl

private theorem wordLength_word (behind : List Char) {word after : List Char} (hne : word ≠ [])
    (hsolid : ∀ c ∈ word, isLayout c = false) (hhyphen : '-' ∉ word)
    (hafter : ∀ c ∈ after.head?, isLayout c = true) : wordLength behind (word ++ after) = word.length := by
  induction word generalizing behind with
  | nil => contradiction
  | cons c word ih =>
    have hhead : (word ++ after).head? ≠ some '-' := by
      cases word with
      | nil => exact fun h => not_hyphen_of_isLayout (hafter _ h) rfl
      | cons d word =>
        intro h
        obtain rfl : d = '-' := by simpa using h
        simp at hhyphen
    rw [List.cons_append]
    unfold wordLength
    rw [isBreakableHyphen_eq_false _ hhead, dashLength_eq_zero _ hhead]
    cases word with
    | nil =>
      have hend : isWordEnd after = true := by
        cases after with
        | nil => rfl
        | cons d after => exact hafter d rfl
      simp [hend]
    | cons d word =>
      have hd : isWordEnd (d :: word ++ after) = false := hsolid d (by simp)
      rw [hd, ih _ (by simp) (fun x hx => hsolid x (by simp [hx])) (by simp_all)]
      simp

private theorem chunkLength_word (behind : List Char) {word after : List Char} (hne : word ≠ [])
    (hsolid : ∀ c ∈ word, isLayout c = false) (hhyphen : '-' ∉ word)
    (hafter : ∀ c ∈ after.head?, isLayout c = true) : chunkLength behind (word ++ after) = word.length := by
  have hword := wordLength_word behind hne hsolid hhyphen hafter
  cases word with
  | nil => contradiction
  | cons c word =>
    have hstart : isWordEnd (c :: word ++ after) = false := hsolid c (by simp)
    have hhead : (c :: word ++ after).head? ≠ some '-' := by
      intro h
      obtain rfl : c = '-' := by simpa using h
      simp at hhyphen
    unfold chunkLength
    rw [hstart, dashLength_eq_zero behind hhead, hword]
    simp

private theorem wordLength_le (behind : List Char) {cs : List Char} (hcs : cs ≠ []) {c : Char}
    (hc : isLayout c = true) (rest : List Char) : wordLength behind (cs ++ c :: rest) ≤ cs.length := by
  induction cs generalizing behind with
  | nil => contradiction
  | cons d cs ih =>
    rw [List.cons_append]
    unfold wordLength
    cases cs with
    | nil =>
      have hhead : (c :: rest).head? ≠ some '-' := by simpa using not_hyphen_of_isLayout hc
      have hend : isWordEnd ([] ++ c :: rest) = true := hc
      rw [List.nil_append] at hend ⊢
      rw [isBreakableHyphen_eq_false _ hhead, hend]
      simp
    | cons e cs =>
      have hrest := ih (d :: behind) (List.cons_ne_nil e cs)
      simp only [List.length_cons] at hrest ⊢
      split
      · omega
      · split <;> omega

/-- No chunk goes beyond a layout blank before something else. -/
private theorem chunkLength_le (behind cs : List Char) {c d : Char} (hc : isLayout c = true) (hd : isLayout d = false)
    (rest : List Char) : chunkLength behind (cs ++ c :: d :: rest) ≤ cs.length + 1 := by
  unfold chunkLength
  split
  · -- a run of blanks ends before `d`
    have hsplit : cs ++ c :: d :: rest = (cs ++ [c]) ++ d :: rest := by simp
    rw [hsplit, List.takeWhile_append]
    split
    · simp [hd]
    · have hle := (List.takeWhile_sublist isLayout (l := cs ++ [c])).length_le
      simpa using hle
  · split
    · -- a dash ends before `c`
      have hhyphens : hyphens (cs ++ c :: d :: rest) ≤ cs.length := by
        unfold hyphens
        rw [List.takeWhile_append]
        split
        · simp [not_hyphen_of_isLayout hc]
        · exact (List.takeWhile_sublist _).length_le
      unfold dashLength
      split
      · split <;> omega
      · omega
    · rename_i hstart _
      cases cs with
      | nil => exact absurd hc (by simpa [isWordEnd] using hstart)
      | cons e cs =>
        have hle := wordLength_le behind (List.cons_ne_nil e cs) hc (d :: rest)
        omega

private theorem exists_chunksFrom_eq (behind : List Char) {text before word after : List Char}
    (h : WordIn text before word after) (hhyphen : '-' ∉ word) :
    ∃ ws ws', chunksFrom behind text = ws ++ word :: ws' ∧ ws.flatten = before := by
  fun_induction chunksFrom behind text generalizing before with
  | case1 => exact absurd h.text_eq (by simp [h.ne_nil])
  | case2 behind c cs n =>
    rename_i ih
    have htext := h.text_eq
    rcases List.eq_nil_or_concat' before with rfl | ⟨start, blank, rfl⟩
    · -- the word starts here, and is the first chunk
      rw [List.nil_append] at htext
      have hn : n = word.length := by
        show chunkLength behind (c :: cs) = _
        rw [htext]
        exact chunkLength_word behind h.ne_nil h.solid hhyphen h.closes
      have htake : (c :: cs).take n = word := by rw [hn, htext, List.take_left]
      exact ⟨[], chunksFrom (((c :: cs).take n).reverse ++ behind) ((c :: cs).drop n), congrArg (· :: _) htake, rfl⟩
    · -- the word starts behind a blank, and the first chunk ends there at the latest
      have hblank : isLayout blank = true := h.opens blank (by simp)
      obtain ⟨d, word', hword⟩ := List.exists_cons_of_ne_nil h.ne_nil
      have hd : isLayout d = false := h.solid d (by simp [hword])
      have hn : n ≤ (start ++ [blank]).length := by
        show chunkLength behind (c :: cs) ≤ _
        have hsplit : start ++ [blank] ++ word ++ after = start ++ blank :: d :: (word' ++ after) := by simp [hword]
        rw [htext, hsplit, List.length_append]
        exact chunkLength_le behind start hblank hd _
      have hdrop : (c :: cs).drop n = (start ++ [blank]).drop n ++ word ++ after := by
        rw [htext, List.append_assoc, List.drop_append_of_le_length hn, List.append_assoc]
      have htake : (c :: cs).take n = (start ++ [blank]).take n := by
        rw [htext, List.append_assoc, List.take_append_of_le_length hn]
      have hrest : WordIn ((c :: cs).drop n) ((start ++ [blank]).drop n) word after := by
        refine ⟨hdrop, h.ne_nil, h.solid, fun x hx => ?_, h.closes⟩
        rw [List.getLast?_drop] at hx
        split at hx
        · cases hx
        · exact h.opens x hx
      obtain ⟨ws, ws', hchunks, hflat⟩ := ih hrest
      refine ⟨(c :: cs).take n :: ws, ws', by rw [hchunks, List.cons_append], ?_⟩
      rw [List.flatten_cons, hflat, htake, List.take_append_drop]

/-! ### Chunks that fit are not cut -/

private theorem exists_fillRows_cons (columns : Nat) (hc : 0 < columns) (row : List Char) (hrow : row ≠ [])
    (cs : List (List Char)) : ∃ back below, fillRows columns hc row cs = (row ++ back) :: below := by
  fun_induction fillRows columns hc row cs with
  | case1 row h => simp_all
  | case2 row h => exact ⟨[], [], by simp⟩
  | case3 row chunk rest h ih =>
    obtain ⟨back, below, hrows⟩ := ih (by simp [hrow])
    exact ⟨chunk ++ back, below, by rw [hrows, List.append_assoc]⟩
  | case4 row chunk rest h1 h2 ih => exact ⟨[], _, by rw [List.append_nil]⟩
  | case5 row chunk rest h1 h2 n ih => exact ⟨chunk.take n, _, rfl⟩

/-- A chunk that fits on a row stands on one. -/
private theorem onRow_fillRows (columns : Nat) (hc : 0 < columns) (row : List Char) (ws ws' : List (List Char))
    {w : List Char} (hw : w ≠ []) (hfits : w.length ≤ columns) :
    OnRow (fillRows columns hc row (ws ++ w :: ws')) (row ++ ws.flatten) w := by
  generalize hcs : ws ++ w :: ws' = cs
  fun_induction fillRows columns hc row cs generalizing ws with
  | case1 | case2 => simp at hcs
  | case3 row chunk rest h ih =>
    rcases List.cons_eq_append_iff.1 hcs.symm with ⟨rfl, hhead⟩ | ⟨ws, rfl, hrest⟩
    · obtain ⟨rfl, rfl⟩ := List.cons.inj hhead
      obtain ⟨back, below, hrows⟩ := exists_fillRows_cons columns hc (row ++ w) (by simp [hw]) ws'
      exact ⟨[], row, back, below, hrows, by simp⟩
    · obtain ⟨above, front, back, below, hrows, hbefore⟩ := ih ws hrest.symm
      exact ⟨above, front, back, below, hrows, by simpa using hbefore⟩
  | case4 row chunk rest h1 h2 ih =>
    obtain ⟨above, front, back, below, hrows, hbefore⟩ := ih ws hcs
    refine ⟨row :: above, front, back, below, by rw [hrows]; rfl, ?_⟩
    rw [List.flatten_cons, List.append_assoc, hbefore, List.nil_append]
  | case5 row chunk rest h1 h2 n ih =>
    rcases List.cons_eq_append_iff.1 hcs.symm with ⟨rfl, hhead⟩ | ⟨ws, rfl, hrest⟩
    · obtain ⟨rfl, -⟩ := List.cons.inj hhead
      exact absurd hfits h2
    · obtain ⟨above, front, back, below, hrows, hbefore⟩ := ih (chunk.drop n :: ws) (by rw [hrest]; rfl)
      refine ⟨(row ++ chunk.take n) :: above, front, back, below, by rw [hrows]; rfl, ?_⟩
      rw [List.flatten_cons, List.append_assoc, hbefore, List.flatten_cons, List.flatten_cons, List.nil_append,
        List.append_assoc, ← List.append_assoc (chunk.take n), List.take_append_drop]

private theorem ne_nil_of_mem_fillRows (columns : Nat) (hc : 0 < columns) (row : List Char) (cs : List (List Char)) :
    ∀ r ∈ fillRows columns hc row cs, r ≠ [] := by
  fun_induction fillRows columns hc row cs with
  | case1 => simp
  | case2 row h => simpa using h
  | case3 row chunk rest h ih => exact ih
  | case4 row chunk rest h1 h2 ih =>
    have hrow : row ≠ [] := by
      rintro rfl
      simp_all
    exact List.forall_mem_cons.mpr ⟨hrow, ih⟩
  | case5 row chunk rest h1 h2 n ih =>
    have hrow : row ++ chunk.take n ≠ [] := by
      -- an empty row has room for at least one character
      intro hnil
      obtain ⟨rfl, htake⟩ := List.append_eq_nil_iff.1 hnil
      have hn : 0 < n := cutPoint_pos (by simpa using hc) chunk
      rcases List.take_eq_nil_iff.1 htake with h | rfl
      · omega
      · simp at h2
    exact List.forall_mem_cons.mpr ⟨hrow, ih⟩

/-! ### Lines -/

theorem wraps_wrap (columns : Nat) (hc : 0 < columns) (line : List Char) :
    Wraps columns line (wrap columns hc line) := by
  have hflat := flatten_wrap columns hc line
  have hmem := ne_nil_of_mem_fillRows columns hc [] (chunks (expandTabs line))
  refine ⟨?_, fun row => length_le_of_mem_wrap, ?_, ?_, ?_, ?_⟩
  · unfold wrap
    split <;> simp
  · rintro rfl
    unfold wrap chunks
    simp [expandTabs, expandFrom, chunksFrom, fillRows]
  · intro hline row hrow
    unfold wrap at hrow hflat
    split at hrow
    · rename_i hnil
      rw [hnil] at hflat
      exact absurd (expandTabs_eq_nil_iff.1 hflat.symm) hline
    · rename_i hrows
      exact hmem row (hrows ▸ hrow)
  · rw [hflat]
    exact expands_expandTabs line
  · intro before word after hword hhyphen hfits
    rw [hflat] at hword
    obtain ⟨ws, ws', hchunks, hbefore⟩ := exists_chunksFrom_eq [] hword hhyphen
    have hrow := onRow_fillRows columns hc [] ws ws' hword.ne_nil hfits
    rw [← hchunks, hbefore] at hrow
    unfold wrap
    split
    · rename_i hnil
      obtain ⟨above, front, back, below, hrows, -⟩ := hrow
      have hrows' := hnil.symm.trans hrows
      simp at hrows'
    · rename_i hrows
      rw [← hrows]
      exact hrow

end Text

namespace Panel

theorem wrapLines_ofTexts {columns : Int} (hc : 0 < columns.toNat) (texts : List String) :
    wrapLines columns (Line.ofTexts texts) =
      .ok (texts.map fun text => (Text.wrap columns.toNat hc text.toList).map String.ofList).flatten := by
  have hlines : (Line.ofTexts texts).mapM (wrapLine columns) =
      .ok (texts.map fun text => (Text.wrap columns.toNat hc text.toList).map String.ofList) := by
    unfold Line.ofTexts
    rw [List.mapM_map]
    exact Fault.mapM_eq_map fun text _ => dif_pos hc
  exact Fault.bind_eq_ok_iff.mpr ⟨_, hlines, rfl⟩

/-- The texts on a panel are broken into one block of rows each, and the blocks are the rows of the panel. -/
theorem rows_wraps (p : Panel) {texts : List String} (hp : p.lines = Line.ofTexts texts) {columns : Int}
    (hc : 1 ≤ columns) :
    ∃ blocks : List (List (List Char)), p.rows columns = .ok (blocks.flatten.map String.ofList) ∧
      List.Forall₂ (fun text block => Text.Wraps columns.toNat text.toList block) texts blocks := by
  have hpos : 0 < columns.toNat := by omega
  refine ⟨texts.map fun text => Text.wrap columns.toNat hpos text.toList, ?_, ?_⟩
  · unfold rows
    rw [hp, wrapLines_ofTexts hpos, List.map_flatten, List.map_map]
    rfl
  · rw [List.forall₂_map_right_iff, List.forall₂_same]
    exact fun text _ => Text.wraps_wrap columns.toNat hpos text.toList

/-- Three lines on six columns: one with a tab and a word that is broken at its hyphen, one without characters, and one
with a dash. -/
theorem rows_wraps_birds :
    let p : Panel := ⟨0, 0, 300, 200, [some "hand-made\tbirds", some "", some "a--b "], "", 0, 10, .made 0⟩
    p.lines = Line.ofTexts ["hand-made\tbirds", "", "a--b "] ∧ (1 : Int) ≤ 6 ∧
      ∃ blocks : List (List (List Char)), p.rows 6 = .ok (blocks.flatten.map String.ofList) ∧
        List.Forall₂ (fun text block => Text.Wraps 6 text.toList block) ["hand-made\tbirds", "", "a--b "] blocks := by
  intro p
  have hp : p.lines = Line.ofTexts ["hand-made\tbirds", "", "a--b "] := rfl
  exact ⟨hp, by decide, p.rows_wraps hp (by decide)⟩

end Panel

end Aviary
