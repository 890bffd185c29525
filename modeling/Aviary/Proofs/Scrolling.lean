import Mathlib.Algebra.Order.Floor.Div
import Aviary.Proofs.Window
import Aviary.Proofs.Wrapping

/-!
# Scrolling

The scroll position may lie beyond the first row until the panel is drawn, and printing goes back to zero.  Wherever it
is, the rows on screen are a full page of the rows of the scrollback, the one that ends as many rows before the last one
as the clamped position says (`visible_eq`, `isPage_page`).  Drawing paints that page and keeps the clamped position
(`draw_eq`), so a page key followed by a draw moves on by one page exactly, up to the first or the last one
(`paged_pageUp`, `paged_pageDown`).  The main statements are `visible_after` and `pages_of_texts`.
-/

namespace Aviary.Panel

/-- What is done to a panel. -/
inductive Operation where
  | println (text : String)
  | event (event : Event)
  | submit
  | scrollToTop
  | resize (made : Nat) (x height : Int)
  | draw (font : Font)

def operate [Memory] (p : Panel) : Operation → Panel
  | .println text => p.println (some text)
  | .event event => (p.handle event).1
  | .submit => p.submit.1
  | .scrollToTop => p.scrollToTop
  | .resize made x height => (p.resize made x height).1
  | .draw font => (p.draw font).1

def after [Memory] (p : Panel) (operations : List Operation) : Panel := operations.foldl operate p

/-- How many rows there is space for. -/
def rowsShown (p : Panel) (font : Font) : Int := max 1 ((p.height - inputHeight font - padding).fdiv font.lineHeight)

/-- What an operation makes of the scroll position of a panel, counted with integers that could be negative. -/
def scrolled (p : Panel) (position : Int) : Operation → Int
  | .println _ => 0
  | .event (.keyDown .pageUp) => position + p.pageRows
  | .event (.keyDown .pageDown) => max 0 (position - p.pageRows)
  | .event (.wheel steps) => max 0 (position + steps * wheelRows)
  | .scrollToTop => farthest
  | .draw font =>
    match p.rows (p.columns font) with
    | .ok rows => if font.lineHeight = 0 then position else min position (max 0 (rows.length - p.rowsShown font))
    | .error _ => position
  | _ => position

/-- The scroll position after some operations, counted with integers. -/
def position [Memory] (p : Panel) (start : Int) : List Operation → Int
  | [] => start
  | operation :: operations => (p.operate operation).position (p.scrolled start operation) operations

/-- Whether `shown` are `count` rows in a row, or all if there are fewer, with `back` rows behind them. -/
def IsPage (rows : List String) (count back : Nat) (shown : List String) : Prop :=
  ∃ above below, rows = above ++ shown ++ below ∧ shown.length = min count rows.length ∧ below.length = back

/-- What is painted of a panel with the given rows on screen. -/
def picture (p : Panel) (font : Font) (rows : List String) : Picture (Call Number) :=
  let scrollback := [.fill p.surface .panel, .line p.surface .divider 0 0 0 p.height]
    ++ rowCalls p.surface font.lineHeight padding rows
  match p.inputBox font with
  | .error fault => ⟨scrollback, some fault⟩
  | .ok box => .emit (scrollback ++ p.inputCalls font box ++ [.blit .screen (.surface p.surface) p.x p.y])

/-- How many rows there are before the last page. -/
def lastPage (p : Panel) (font : Font) (rows : List String) : Nat := rows.length - (p.rowsShown font).toNat

/-- A panel drawn with the page on screen that starts with the row `first`. -/
def drawnFrom (p : Panel) (font : Font) (rows : List String) (first : Nat) : Panel × Picture (Call Number) :=
  ({ p with pageRows := (p.rowsShown font).toNat, scrollBack := p.lastPage font rows - first },
    p.picture font ((rows.drop first).take (p.rowsShown font).toNat))

/-- Draws a panel, and again after each of a number of presses of a key. -/
def paged (p : Panel) (font : Font) (key : Key) : Nat → Panel × Picture (Call Number)
  | 0 => p.draw font
  | presses + 1 => ((p.paged font key presses).1.handle (.keyDown key)).1.draw font

/-- Whether a key leads through all rows page by page: the page after some presses starts with the row `first presses`,
every row is on some page, and it takes exactly `turns` presses to get to the page that starts with the row `goal`,
where further presses change nothing. -/
structure Pages (p : Panel) (font : Font) (key : Key) (rows : List String) (first : Nat → Nat) (goal turns : Nat) :
    Prop where
  shows : ∀ presses, p.paged font key presses = p.drawnFrom font rows (first presses)
  covers : ∀ i < rows.length, ∃ presses, first presses ≤ i ∧ i < first presses + (p.rowsShown font).toNat
  reaches : ∀ presses, first presses = goal ↔ turns ≤ presses
  stays : ∀ presses, turns ≤ presses → p.paged font key presses = p.paged font key turns

variable {p : Panel} {font : Font} {rows : List String}

theorem rowsShown_pos (p : Panel) (font : Font) : 1 ≤ p.rowsShown font := le_max_left ..

theorem columns_pos (p : Panel) (font : Font) : 1 ≤ p.columns font := le_max_left ..

theorem exists_rows {texts : List String} (hp : p.lines = Line.ofTexts texts) {columns : Int} (hc : 1 ≤ columns) :
    ∃ rows, p.rows columns = .ok rows := by
  unfold Panel.rows
  rw [hp]
  exact ⟨_, wrapLines_ofTexts (by omega) texts⟩

/-! ### Pages -/

private theorem clampScroll_eq {count : Int} (hc : 1 ≤ count) (total back : Nat) :
    clampScroll total count back = min back (total - count.toNat) := by
  unfold clampScroll
  omega

private theorem page_eq_take_drop {count : Int} (hc : 1 ≤ count) {back : Nat} (hb : back ≤ rows.length - count.toNat) :
    page rows count back = (rows.drop (rows.length - count.toNat - back)).take count.toNat := by
  have hstart : rows.length - back - count.toNat = rows.length - count.toNat - back := by omega
  rw [page_eq (by omega) (by omega), List.drop_take, hstart]
  rcases Nat.le_total count.toNat rows.length with h | h
  · have hlen : rows.length - back - (rows.length - count.toNat - back) = count.toNat := by omega
    rw [hlen]
  · -- there are fewer rows than a page has
    have hzero : rows.length - count.toNat - back = 0 := by omega
    rw [hzero, List.drop_zero, List.take_of_length_le (by omega), List.take_of_length_le h]

theorem isPage_page {count : Int} (hc : 1 ≤ count) {back : Nat} (hb : back ≤ rows.length - count.toNat) :
    IsPage rows count.toNat back (page rows count back) := by
  rw [page_eq_take_drop hc hb]
  generalize hfirst : rows.length - count.toNat - back = first
  refine ⟨rows.take first, (rows.drop first).drop count.toNat, ?_, ?_, ?_⟩
  · rw [List.append_assoc, List.take_append_drop, List.take_append_drop]
  · rw [List.length_take, List.length_drop]
    omega
  · rw [List.length_drop, List.length_drop]
    omega

theorem visible_eq {columns count : Int} (hr : p.rows columns = .ok rows) (hc : 1 ≤ count) :
    p.visible columns count =
      .ok ({ p with scrollBack := min p.scrollBack (rows.length - count.toNat) },
        page rows count (min p.scrollBack (rows.length - count.toNat))) := by
  unfold visible
  rw [hr, ← clampScroll_eq hc]
  rfl

private theorem visible_println {text : String} {columns count : Int}
    (hr : (p.println (some text)).rows columns = .ok rows) (hc : 1 ≤ count) :
    (p.println (some text)).visible columns count =
      .ok (p.println (some text), rows.drop (rows.length - count.toNat)) := by
  have hback : min (p.println (some text)).scrollBack (rows.length - count.toNat) = 0 := Nat.zero_min _
  have hpage : page rows count 0 = rows.drop (rows.length - count.toNat) := by
    rw [page_eq (by omega) (Nat.zero_le _), Nat.sub_zero, List.take_length]
  rw [visible_eq hr hc, hback, hpage]
  rfl

private theorem visible_scrollToTop {columns count : Int} (hr : p.rows columns = .ok rows) (hc : 1 ≤ count)
    (hmax : rows.length ≤ farthest) :
    p.scrollToTop.visible columns count =
      .ok ({ p with scrollBack := rows.length - count.toNat }, rows.take count.toNat) := by
  have hback : min p.scrollToTop.scrollBack (rows.length - count.toNat) = rows.length - count.toNat :=
    Nat.min_eq_right ((Nat.sub_le _ _).trans hmax)
  rw [visible_eq (p := p.scrollToTop) hr hc, hback, page_eq_take_drop hc (le_refl _), Nat.sub_self, List.drop_zero]
  rfl

theorem draw_eq (hl : font.lineHeight ≠ 0) (hr : p.rows (p.columns font) = .ok rows) :
    let count := p.rowsShown font
    let back := min p.scrollBack (rows.length - count.toNat)
    p.draw font = ({ p with pageRows := count.toNat, scrollBack := back }, p.picture font (page rows count back)) := by
  intro count back
  have hvisible : ({ p with pageRows := count.toNat } : Panel).visible (p.columns font) count =
      .ok ({ p with pageRows := count.toNat, scrollBack := back }, page rows count back) :=
    visible_eq (p := { p with pageRows := count.toNat }) hr (p.rowsShown_pos font)
  unfold draw
  rw [if_neg hl]
  dsimp only
  split
  · rename_i fault hfault
    cases hfault.symm.trans hvisible
  · rename_i q shown hshown
    obtain ⟨rfl, rfl⟩ := Prod.mk.inj (Except.ok.inj (hshown.symm.trans hvisible))
    unfold picture
    have hbox : ({ p with pageRows := count.toNat, scrollBack := back } : Panel).inputBox font = p.inputBox font := rfl
    rw [hbox]
    cases p.inputBox font <;> rfl

/-! ### Page keys -/

private theorem handle_pageUp (p : Panel) :
    (p.handle (.keyDown .pageUp)).1 = { p with scrollBack := p.scrollBack + p.pageRows } := by
  have hscroll : ((p.scrollBack : Int) + p.pageRows).toNat = p.scrollBack + p.pageRows := by omega
  show p.scroll p.pageRows = _
  unfold scroll
  rw [hscroll]

private theorem handle_pageDown (p : Panel) :
    (p.handle (.keyDown .pageDown)).1 = { p with scrollBack := p.scrollBack - p.pageRows } := by
  have hscroll : ((p.scrollBack : Int) + -p.pageRows).toNat = p.scrollBack - p.pageRows := by omega
  show p.scroll (-p.pageRows) = _
  unfold scroll
  rw [hscroll]

/-- Wherever a panel was scrolled to, the page that it is drawn with starts with the row that the clamped position
leaves before it. -/
private theorem draw_scrolled (hl : font.lineHeight ≠ 0) (hr : p.rows (p.columns font) = .ok rows)
    (pageRows scrollBack : Nat) :
    ({ p with pageRows, scrollBack } : Panel).draw font =
      p.drawnFrom font rows (p.lastPage font rows - min scrollBack (p.lastPage font rows)) := by
  have hback : min scrollBack (p.lastPage font rows) =
      p.lastPage font rows - (p.lastPage font rows - min scrollBack (p.lastPage font rows)) := by omega
  have hpage := page_eq_take_drop (p.rowsShown_pos font) (Nat.min_le_right scrollBack (p.lastPage font rows))
  have key := draw_eq (p := { p with pageRows, scrollBack }) hl hr
  unfold drawnFrom
  rw [← hback]
  exact key.trans (congrArg _ (congrArg (p.picture font) hpage))

/-- Page down leads on by a page, or to the last one. -/
private theorem pageDown_drawnFrom (hl : font.lineHeight ≠ 0) (hr : p.rows (p.columns font) = .ok rows)
    (first : Nat) :
    ((p.drawnFrom font rows first).1.handle (.keyDown .pageDown)).1.draw font =
      p.drawnFrom font rows (min (first + (p.rowsShown font).toNat) (p.lastPage font rows)) := by
  have hfirst : p.lastPage font rows -
      min (p.lastPage font rows - first - (p.rowsShown font).toNat) (p.lastPage font rows) =
      min (first + (p.rowsShown font).toNat) (p.lastPage font rows) := by omega
  rw [handle_pageDown, ← hfirst]
  exact draw_scrolled hl hr _ _

/-- Page up leads back by a page, or to the first one. -/
private theorem pageUp_drawnFrom (hl : font.lineHeight ≠ 0) (hr : p.rows (p.columns font) = .ok rows) {first : Nat}
    (hf : first ≤ p.lastPage font rows) :
    ((p.drawnFrom font rows first).1.handle (.keyDown .pageUp)).1.draw font =
      p.drawnFrom font rows (first - (p.rowsShown font).toNat) := by
  have hfirst : p.lastPage font rows -
      min (p.lastPage font rows - first + (p.rowsShown font).toNat) (p.lastPage font rows) =
      first - (p.rowsShown font).toNat := by omega
  rw [handle_pageUp, ← hfirst]
  exact draw_scrolled hl hr _ _

theorem paged_pageDown (hl : font.lineHeight ≠ 0) (hr : p.rows (p.columns font) = .ok rows)
    (hmax : rows.length ≤ farthest) (presses : Nat) :
    p.scrollToTop.paged font .pageDown presses =
      p.drawnFrom font rows (min (presses * (p.rowsShown font).toNat) (p.lastPage font rows)) := by
  induction presses with
  | zero =>
    have hlast : p.lastPage font rows ≤ farthest := (Nat.sub_le _ _).trans hmax
    have hfirst : p.lastPage font rows - min farthest (p.lastPage font rows) =
        min (0 * (p.rowsShown font).toNat) (p.lastPage font rows) := by omega
    rw [← hfirst]
    exact draw_scrolled hl hr p.pageRows farthest
  | succ presses ih =>
    have hfirst : min (min (presses * (p.rowsShown font).toNat) (p.lastPage font rows) + (p.rowsShown font).toNat)
        (p.lastPage font rows) = min ((presses + 1) * (p.rowsShown font).toNat) (p.lastPage font rows) := by
      rw [Nat.succ_mul]
      omega
    unfold paged
    rw [ih, pageDown_drawnFrom hl hr, hfirst]

theorem paged_pageUp (hl : font.lineHeight ≠ 0) (hr : p.rows (p.columns font) = .ok rows) (presses : Nat) :
    ({ p with scrollBack := 0 } : Panel).paged font .pageUp presses =
      p.drawnFrom font rows (p.lastPage font rows - presses * (p.rowsShown font).toNat) := by
  induction presses with
  | zero =>
    have hfirst : p.lastPage font rows - min 0 (p.lastPage font rows) =
        p.lastPage font rows - 0 * (p.rowsShown font).toNat := by omega
    rw [← hfirst]
    exact draw_scrolled hl hr p.pageRows 0
  | succ presses ih =>
    unfold paged
    rw [ih, pageUp_drawnFrom hl hr (Nat.sub_le _ _), Nat.succ_mul, Nat.sub_add_eq]

/-! ### Operations -/

/-- What an operation prints. -/
def Operation.texts : Operation → List String
  | .println text => [text]
  | _ => []

private theorem lines_handle (p : Panel) (event : Event) : (p.handle event).1.lines = p.lines := by
  cases h : event.submits with
  | false =>
    obtain ⟨⟨_, hedit⟩, -⟩ := p.handle_edit h
    rw [hedit]
  | true =>
    cases event with
    | keyDown key => rw [(p.handle_submits h).1]
    | text | keyUp | wheel | motion | quit => cases h

private theorem scrollBack_handle (p : Panel) (event : Event) :
    ((p.handle event).1.scrollBack : Int) = p.scrolled p.scrollBack (.event event) := by
  have hscroll : ∀ steps : Int, ((p.scroll steps).scrollBack : Int) = max 0 (p.scrollBack + steps) := by
    intro steps
    exact (Int.ofNat_toNat _).trans (max_comm _ _)
  cases event with
  | text | keyUp | motion | quit => rfl
  | wheel steps => exact hscroll _
  | keyDown key =>
    cases key with
    | enter | keypadEnter => rw [(p.handle_submits rfl).1]; rfl
    | backspace | escape | tab | f1 | other => rfl
    | pageUp => rw [handle_pageUp]; exact Nat.cast_add _ _
    | pageDown => exact hscroll _

private theorem scrollBack_draw_of_error {fault : Fault} (hr : p.rows (p.columns font) = .error fault) :
    (p.draw font).1.scrollBack = p.scrollBack := by
  unfold draw
  split
  · rfl
  · dsimp only
    split
    · rfl
    · rename_i q shown hshown
      obtain ⟨_, hrows, -⟩ := Fault.bind_eq_ok_iff.mp hshown
      cases hrows.symm.trans hr

private theorem scrollBack_draw (p : Panel) (font : Font) :
    ((p.draw font).1.scrollBack : Int) = p.scrolled p.scrollBack (.draw font) := by
  unfold scrolled
  dsimp only
  cases hr : p.rows (p.columns font) with
  | error fault => exact congrArg _ (scrollBack_draw_of_error hr)
  | ok rows =>
    by_cases hl : font.lineHeight = 0
    · have hdraw : (p.draw font).1 = p := by
        unfold draw
        rw [if_pos hl]
      rw [hdraw]
      exact (if_pos hl).symm
    · have hshown := p.rowsShown_pos font
      rw [draw_eq hl hr]
      dsimp only
      rw [if_neg hl]
      omega

section Run

variable [Memory]

private theorem lines_operate (p : Panel) (operation : Operation) :
    (p.operate operation).lines = p.lines ++ Line.ofTexts operation.texts := by
  have hkept : p.lines = p.lines ++ Line.ofTexts [] := (List.append_nil _).symm
  cases operation with
  | println text => rfl
  | submit | scrollToTop => exact hkept
  | event event => exact (p.lines_handle event).trans hkept
  | resize made x height =>
    refine Eq.trans ?_ hkept
    show (p.resize made x height).1.lines = _
    unfold resize
    dsimp only
    split
    · rfl
    · split <;> rfl
  | draw font =>
    obtain ⟨_, _, hdraw, -⟩ := p.exists_draw_eq font
    show (p.draw font).1.lines = _
    rw [hdraw]
    exact hkept

/-- The scrollback is what was printed. -/
private theorem lines_after (p : Panel) (operations : List Operation) :
    (p.after operations).lines = p.lines ++ Line.ofTexts (operations.flatMap Operation.texts) := by
  induction operations generalizing p with
  | nil => exact (List.append_nil _).symm
  | cons operation operations ih =>
    show ((p.operate operation).after operations).lines = _
    rw [ih, lines_operate, List.append_assoc, List.flatMap_cons]
    simp [Line.ofTexts]

private theorem scrollBack_operate (p : Panel) (operation : Operation) :
    ((p.operate operation).scrollBack : Int) = p.scrolled p.scrollBack operation := by
  cases operation with
  | println | submit | scrollToTop => rfl
  | event event => exact p.scrollBack_handle event
  | resize made x height =>
    show ((p.resize made x height).1.scrollBack : Int) = _
    unfold resize
    dsimp only
    split
    · rfl
    · split <;> rfl
  | draw font => exact p.scrollBack_draw font

private theorem position_eq (p : Panel) (operations : List Operation) :
    p.position p.scrollBack operations = (p.after operations).scrollBack := by
  induction operations generalizing p with
  | nil => rfl
  | cons operation operations ih =>
    show (p.operate operation).position (p.scrolled p.scrollBack operation) operations = _
    rw [← scrollBack_operate, ih]
    rfl

/-- Whatever was done to a new panel, its scroll position is never negative.  The rows on screen are a full page of all
rows, the one at the clamped position, and they stay the same if nothing is done.  They are the last rows when something
was printed, and the first ones when the panel was scrolled to the top. -/
theorem visible_after {made : Nat} {x y width height : Int} {new : Panel} {call : Call Number}
    (h : make made x y width height = .ok (new, call)) (operations : List Operation) :
    let p := new.after operations
    0 ≤ new.position 0 operations ∧ new.position 0 operations = p.scrollBack ∧
      ∀ columns count : Int, 1 ≤ columns → 1 ≤ count → ∃ rows, p.rows columns = .ok rows ∧
        let clamped := { p with scrollBack := min p.scrollBack (rows.length - count.toNat) }
        (∃ shown, IsPage rows count.toNat clamped.scrollBack shown ∧
          p.visible columns count = .ok (clamped, shown) ∧ clamped.visible columns count = .ok (clamped, shown)) ∧
        (∀ text, ∃ rows', (p.println (some text)).rows columns = .ok rows' ∧
          (p.println (some text)).visible columns count =
            .ok (p.println (some text), rows'.drop (rows'.length - count.toNat))) ∧
        (rows.length ≤ farthest → p.scrollToTop.visible columns count =
          .ok ({ p with scrollBack := rows.length - count.toNat }, rows.take count.toNat)) := by
  intro p
  -- a new panel has no lines and follows what is printed
  obtain ⟨surface, -, hnew⟩ := Fault.bind_eq_ok_iff.mp h
  obtain ⟨hnew, -⟩ := Prod.mk.inj (Except.ok.inj hnew)
  have hlines : ∀ operations, (new.after operations).lines = Line.ofTexts (operations.flatMap Operation.texts) := by
    intro operations
    rw [lines_after, ← hnew]
    rfl
  have hposition : new.position 0 operations = p.scrollBack := by
    have hstart : (new.scrollBack : Int) = 0 := by rw [← hnew]; rfl
    rw [← hstart]
    exact new.position_eq operations
  refine ⟨by omega, hposition, fun columns count hcolumns hc => ?_⟩
  obtain ⟨rows, hr⟩ := exists_rows (hlines operations) hcolumns
  refine ⟨rows, hr, ⟨_, isPage_page hc (Nat.min_le_right _ _), visible_eq hr hc, ?_⟩, fun text => ?_,
    visible_scrollToTop hr hc⟩
  · rw [visible_eq (p := { p with scrollBack := min p.scrollBack (rows.length - count.toNat) }) hr hc, min_assoc,
      min_self]
  · have hprinted : (p.println (some text)).lines =
        Line.ofTexts ((operations ++ [Operation.println text]).flatMap Operation.texts) := by
      rw [← hlines]
      unfold after
      rw [List.foldl_append]
      rfl
    obtain ⟨rows', hr'⟩ := exists_rows hprinted hcolumns
    exact ⟨rows', hr', visible_println hr' hc⟩

end Run

/-- Short lines fit on a row each. -/
theorem rows_eggs (hp : p.lines = Line.ofTexts ["egg", "", "egg", ""]) :
    p.rows 35 = .ok ["egg", "", "egg", ""] := by
  have hchunks : Text.chunks ['e', 'g', 'g'] = [['e', 'g', 'g']] := by
    have hlength : Text.chunkLength [] ['e', 'g', 'g'] = 3 := by decide +kernel
    simp [Text.chunks, Text.chunksFrom, hlength]
  have hegg : Text.wrap 35 (by decide) ['e', 'g', 'g'] = [['e', 'g', 'g']] := by
    have htabs : Text.expandTabs ['e', 'g', 'g'] = ['e', 'g', 'g'] := by decide
    simp [Text.wrap, htabs, hchunks, Text.fillRows]
  have hblank : Text.wrap 35 (by decide) [] = [[]] := (Text.wraps_wrap 35 (by decide) []).eq_of_nil rfl
  unfold rows
  rw [hp, wrapLines_ofTexts (by decide)]
  simp [hegg, hblank]

/-- Lines are printed, drawn and scrolled beyond the first one, and the panel is made smaller. -/
theorem visible_after_eggs :
    let operations : List Operation :=
      [.println "egg", .println "", .event (.wheel 2), .draw ⟨16, 8⟩, .println "egg", .println "",
        .event (.keyDown .pageUp), .event (.wheel (-1)), .resize 1 700 60]
    ∃ new call, make 0 800 0 420 600 = .ok (new, call) ∧
      let p := new.after operations
      0 ≤ new.position 0 operations ∧ new.position 0 operations = p.scrollBack ∧
        let clamped := { p with scrollBack := min p.scrollBack 1 }
        (∃ shown, IsPage ["egg", "", "egg", ""] 3 clamped.scrollBack shown ∧
          p.visible 35 3 = .ok (clamped, shown) ∧ clamped.visible 35 3 = .ok (clamped, shown)) ∧
        p.scrollToTop.visible 35 3 = .ok ({ p with scrollBack := 1 }, ["egg", "", "egg"]) := by
  intro operations
  have hnew : make 0 800 0 420 600 = .ok (⟨800, 0, 420, 600, [], "", 0, 10, .made 0⟩, _) := rfl
  refine ⟨_, _, hnew, ?_⟩
  obtain ⟨hnonneg, hposition, hwindow⟩ := visible_after hnew operations
  obtain ⟨rows, hr, hpage, -, htop⟩ := hwindow 35 3 (by decide) (by decide)
  obtain rfl : rows = ["egg", "", "egg", ""] := Except.ok.inj (hr.symm.trans (rows_eggs (lines_after _ _)))
  exact ⟨hnonneg, hposition, hpage, htop (by decide)⟩

/-! ### All pages -/

private theorem paged_eq_of_reaches {key : Key} {first : Nat → Nat} {goal turns : Nat}
    (hshows : ∀ presses, p.paged font key presses = p.drawnFrom font rows (first presses))
    (hreaches : ∀ presses, first presses = goal ↔ turns ≤ presses) {presses : Nat} (h : turns ≤ presses) :
    p.paged font key presses = p.paged font key turns := by
  rw [hshows, hshows, (hreaches presses).2 h, (hreaches turns).2 (le_refl turns)]

private theorem toNat_rowsShown_pos (p : Panel) (font : Font) : 0 < (p.rowsShown font).toNat := by
  have hshown := p.rowsShown_pos font
  omega

private theorem length_le_lastPage_add (p : Panel) (font : Font) (rows : List String) :
    rows.length ≤ p.lastPage font rows + (p.rowsShown font).toNat := by
  unfold lastPage
  omega

private theorem pages_pageDown (hl : font.lineHeight ≠ 0) (hr : p.rows (p.columns font) = .ok rows)
    (hmax : rows.length ≤ farthest) :
    Pages p.scrollToTop font .pageDown rows
      (fun presses => min (presses * (p.rowsShown font).toNat) (p.lastPage font rows)) (p.lastPage font rows)
      (p.lastPage font rows ⌈/⌉ (p.rowsShown font).toNat) := by
  have hpos := p.toNat_rowsShown_pos font
  have hshows := paged_pageDown hl hr hmax
  have hreaches : ∀ presses, min (presses * (p.rowsShown font).toNat) (p.lastPage font rows) = p.lastPage font rows ↔
      p.lastPage font rows ⌈/⌉ (p.rowsShown font).toNat ≤ presses := by
    intro presses
    rw [ceilDiv_le_iff_le_mul hpos, Nat.mul_comm, min_eq_right_iff]
  refine ⟨hshows, fun i hi => ⟨i / (p.rowsShown font).toNat, ?_, ?_⟩, hreaches,
    fun _ => paged_eq_of_reaches hshows hreaches⟩
  · exact (Nat.min_le_left _ _).trans (Nat.div_mul_le_self i _)
  · -- the page ends behind the row, or behind all rows
    have hnext := Nat.lt_div_mul_add hpos (a := i)
    have hrest := p.length_le_lastPage_add font rows
    show i < min (i / (p.rowsShown font).toNat * (p.rowsShown font).toNat) (p.lastPage font rows) +
      (p.rowsShown font).toNat
    omega

private theorem pages_pageUp (hl : font.lineHeight ≠ 0) (hr : p.rows (p.columns font) = .ok rows) :
    Pages { p with scrollBack := 0 } font .pageUp rows
      (fun presses => p.lastPage font rows - presses * (p.rowsShown font).toNat) 0
      (p.lastPage font rows ⌈/⌉ (p.rowsShown font).toNat) := by
  have hpos := p.toNat_rowsShown_pos font
  have hshows := paged_pageUp hl hr
  have hreaches : ∀ presses, p.lastPage font rows - presses * (p.rowsShown font).toNat = 0 ↔
      p.lastPage font rows ⌈/⌉ (p.rowsShown font).toNat ≤ presses := by
    intro presses
    rw [ceilDiv_le_iff_le_mul hpos, Nat.mul_comm, Nat.sub_eq_zero_iff_le]
  refine ⟨hshows, fun i hi => ?_, hreaches, fun _ => paged_eq_of_reaches hshows hreaches⟩
  -- the fewest pages that hold all rows from `i` to the last page lead to a page that starts with `i` or before
  obtain ⟨presses, hpresses⟩ : ∃ presses, presses = (p.lastPage font rows - i) ⌈/⌉ (p.rowsShown font).toNat := ⟨_, rfl⟩
  have henough : p.lastPage font rows - i ≤ (p.rowsShown font).toNat * presses :=
    (ceilDiv_le_iff_le_mul hpos).1 hpresses.ge
  refine ⟨presses, ?_, ?_⟩
  · rw [Nat.mul_comm]
    omega
  · have hrest := p.length_le_lastPage_add font rows
    show i < p.lastPage font rows - presses * (p.rowsShown font).toNat + (p.rowsShown font).toNat
    cases presses with
    | zero => omega
    | succ fewer =>
      have hshort : ¬ p.lastPage font rows - i ≤ (p.rowsShown font).toNat * fewer := by
        rw [← ceilDiv_le_iff_le_mul hpos, ← hpresses]
        omega
      rw [Nat.succ_mul, Nat.mul_comm]
      omega

/-- Page down leads from the first row of a panel to the last, and page up from the last to the first, one page for each
press. -/
theorem pages_of_texts (p : Panel) {texts : List String} (hp : p.lines = Line.ofTexts texts) {font : Font}
    (hl : 1 ≤ font.lineHeight) :
    ∃ rows, p.rows (p.columns font) = .ok rows ∧
      let page := (p.rowsShown font).toNat
      let last := rows.length - page
      (rows.length ≤ farthest →
        Pages p.scrollToTop font .pageDown rows (fun presses => min (presses * page) last) last (last ⌈/⌉ page)) ∧
      Pages { p with scrollBack := 0 } font .pageUp rows (fun presses => last - presses * page) 0 (last ⌈/⌉ page) := by
  obtain ⟨rows, hr⟩ := exists_rows hp (p.columns_pos font)
  have hne : font.lineHeight ≠ 0 := by omega
  exact ⟨rows, hr, fun hmax => pages_pageDown hne hr hmax, pages_pageUp hne hr⟩

/-- Four lines on a panel with three rows. -/
theorem pages_of_texts_eggs :
    let p : Panel := ⟨0, 0, 300, 90, [some "egg", some "", some "egg", some ""], "", 0, 10, .made 0⟩
    let font : Font := ⟨16, 8⟩
    let rows := ["egg", "", "egg", ""]
    p.lines = Line.ofTexts rows ∧ 1 ≤ font.lineHeight ∧ rows.length ≤ farthest ∧
      Pages p.scrollToTop font .pageDown rows (fun presses => min (presses * 3) 1) 1 (1 ⌈/⌉ 3) ∧
      Pages { p with scrollBack := 0 } font .pageUp rows (fun presses => 1 - presses * 3) 0 (1 ⌈/⌉ 3) := by
  intro p font rows
  have hp : p.lines = Line.ofTexts rows := rfl
  have hl : 1 ≤ font.lineHeight := by decide
  have hmax : rows.length ≤ farthest := by decide
  obtain ⟨rows', hr, hdown, hup⟩ := p.pages_of_texts hp hl
  obtain rfl : rows' = rows := Except.ok.inj (hr.symm.trans (rows_eggs hp))
  exact ⟨hp, hl, hmax, hdown hmax, hup⟩

end Aviary.Panel
