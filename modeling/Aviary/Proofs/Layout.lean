import Aviary.Proofs.Scrolling

/-!
# The layout of the panel

What is written on a panel stands inside its borders: the rows from the top down, and below them, in a box of its own,
the end of the line of input with the cursor.  Rows are short enough because of how lines are broken
(`length_le_of_mem_rows`), and there are only as many as there is space for above the box (`rowWriting_inside`).

The main statement is `draw_laidOut`.  It needs the numbers of the box to be words: the box of a panel that is too tall
is elsewhere, on top of the rows (`not_laidOut_tall`).
-/

namespace Aviary

/-- A text written on a surface. -/
structure Writing where
  on : SurfaceId
  content : String
  x : Int
  y : Int
  deriving DecidableEq

/-- The pixels that a text takes. -/
def Writing.box (font : Font) (w : Writing) : Rect := ⟨w.x, w.y, font.charWidth * w.content.length, font.lineHeight⟩

def Call.writing? : Call Number → Option Writing
  | .blit on (.text content _) x y => some ⟨on, content, x, y⟩
  | _ => none

/-- The texts that are written, in order. -/
def writings (calls : List (Call Number)) : List Writing := calls.filterMap Call.writing?

/-- A rectangle that ends above another one does not overlap it. -/
private theorem Rect.not_overlaps_of_le {a b : Rect} (h : a.y + a.height ≤ b.y) : ¬ a.overlaps b :=
  fun hover => absurd hover.2.2 (not_lt.mpr h)

private theorem writings_append (a b : List (Call Number)) : writings (a ++ b) = writings a ++ writings b :=
  List.filterMap_append

/-- Whether `tail` is the longest end of a text that has no more than `count` characters. -/
structure IsLongestEnd (count : Int) (text tail : String) : Prop where
  suffix : tail.toList <:+ text.toList
  length_le : tail.length ≤ count
  longest : ∀ other : List Char, other <:+ text.toList → other.length ≤ count → other.length ≤ tail.length

private theorem IsLongestEnd.unique {count : Int} {text a b : String} (ha : IsLongestEnd count text a)
    (hb : IsLongestEnd count text b) : a = b := by
  have hab : a.toList.length ≤ b.length := hb.longest _ ha.suffix (by rw [String.length_toList]; exact ha.length_le)
  have hba : b.toList.length ≤ a.length := ha.longest _ hb.suffix (by rw [String.length_toList]; exact hb.length_le)
  rw [← String.length_toList] at hab hba
  have hsuffix := List.suffix_of_suffix_length_le ha.suffix hb.suffix hab
  exact String.toList_inj.mp (hsuffix.eq_of_length (by omega))

namespace Panel

/-- The box for the line of input. -/
def inputFrame (p : Panel) (font : Font) : Rect := ⟨0, p.height - inputHeight font, p.width, inputHeight font⟩

/-- Whether the numbers of the box for the line of input are words. -/
structure FrameFits (p : Panel) (font : Font) : Prop where
  top : Word.Fits (p.height - inputHeight font)
  width : Word.Fits p.width
  height : Word.Fits (inputHeight font)

/-- The space for the rows: between the borders, and above the box for the line of input. -/
def rowSpace (p : Panel) (font : Font) : Rect :=
  ⟨padding, padding, p.width - 2 * padding, (p.inputFrame font).y - padding⟩

/-- The row on screen with the given index. -/
def rowWriting (p : Panel) (font : Font) (row : String) (index : Nat) : Writing :=
  ⟨p.surface, row, padding, padding + index * font.lineHeight⟩

/-- The rows on screen that are not empty. -/
def rowWritings (p : Panel) (font : Font) (shown : List String) : List Writing :=
  (shown.zipIdx.filter fun row => !row.1.isEmpty).map fun row => p.rowWriting font row.1 row.2

/-- The end of the line of input, in a box that starts at a height. -/
def inputWriting (p : Panel) (top : Int) (tail : String) : Writing := ⟨p.surface, tail, padding, top + padding⟩

/-- Whether a panel is drawn with the rows `shown` and the end `tail` of the line of input, each in its place. -/
structure LaidOut (p : Panel) (font : Font) (shown : List String) (tail : String) : Prop where
  complete : (p.draw font).2.fault = none
  framed : .rect p.surface .input (p.inputFrame font) ∈ (p.draw font).2.calls
  written : writings (p.draw font).2.calls =
    p.rowWritings font shown ++ [p.inputWriting (p.inputFrame font).y tail]
  rows_inside : ∀ w ∈ p.rowWritings font shown, (w.box font).Inside (p.rowSpace font)
  input_inside : ((p.inputWriting (p.inputFrame font).y tail).box font).Inside (p.inputFrame font)
  input_right : padding + font.charWidth * tail.length ≤ p.width - padding
  apart : (writings (p.draw font).2.calls).Pairwise fun v w => ¬ (v.box font).overlaps (w.box font)

variable {p : Panel} {font : Font} {rows shown : List String}

/-! ### Space -/

/-- As many parts as there is space for take no more than the space. -/
private theorem max_fdiv_mul_le {space part : Int} (hpart : 1 ≤ part) (h : part ≤ space) :
    max 1 (space.fdiv part) = space.fdiv part ∧ space.fdiv part * part ≤ space := by
  rw [Int.fdiv_eq_ediv_of_nonneg _ (by omega)]
  have hone : 1 ≤ space / part := (Int.le_ediv_iff_mul_le (by omega)).mpr (by omega)
  exact ⟨max_eq_right hone, Int.ediv_mul_le _ (by omega)⟩

private theorem columns_eq (hc : 1 ≤ font.charWidth) (hw : 2 * padding + font.charWidth ≤ p.width) :
    p.columns font = (p.width - 2 * padding).fdiv font.charWidth := by
  unfold columns
  rw [max_eq_right hc]
  exact (max_fdiv_mul_le hc (by omega)).1

/-- A text with no more characters than there are columns ends before the border. -/
private theorem charWidth_mul_le (hc : 1 ≤ font.charWidth) (hw : 2 * padding + font.charWidth ≤ p.width) {length : Nat}
    (h : length ≤ p.columns font) : font.charWidth * length ≤ p.width - 2 * padding := by
  rw [columns_eq hc hw] at h
  calc font.charWidth * length
      ≤ font.charWidth * (p.width - 2 * padding).fdiv font.charWidth := Int.mul_le_mul_of_nonneg_left h (by omega)
    _ = (p.width - 2 * padding).fdiv font.charWidth * font.charWidth := Int.mul_comm _ _
    _ ≤ p.width - 2 * padding := (max_fdiv_mul_le hc (by omega)).2

/-- A row that there is space for ends above the box for the line of input. -/
private theorem row_bottom_le (hl : 1 ≤ font.lineHeight) (hh : 2 * font.lineHeight + 3 * padding ≤ p.height)
    {index : Nat} (h : index < p.rowsShown font) :
    padding + index * font.lineHeight + font.lineHeight ≤ p.height - inputHeight font := by
  have hspace : font.lineHeight ≤ p.height - inputHeight font - padding := by
    unfold inputHeight
    omega
  obtain ⟨hmax, hmul⟩ := max_fdiv_mul_le hl hspace
  have hindex : (index : Int) + 1 ≤ (p.height - inputHeight font - padding).fdiv font.lineHeight := by
    rw [← hmax]
    exact h
  have hrows := Int.mul_le_mul_of_nonneg_right hindex (by omega : 0 ≤ font.lineHeight)
  rw [Int.add_mul, Int.one_mul] at hrows
  omega

/-! ### Rows -/

/-- Rows from the one with the index `first` on are written where their indices say. -/
private theorem writings_rowCalls (p : Panel) (font : Font) (rows : List String) (first : Nat) :
    writings (rowCalls p.surface font.lineHeight (padding + first * font.lineHeight) rows) =
      ((rows.zipIdx first).filter fun row => !row.1.isEmpty).map fun row => p.rowWriting font row.1 row.2 := by
  induction rows generalizing first with
  | nil => rfl
  | cons row rows ih =>
    have hnext : padding + (first : Int) * font.lineHeight + font.lineHeight =
        padding + ((first + 1 : Nat) : Int) * font.lineHeight := by
      push_cast
      rw [Int.add_mul, Int.one_mul, Int.add_assoc]
    unfold rowCalls
    rw [writings_append, hnext, ih, List.zipIdx_cons]
    cases hempty : row.isEmpty with
    | true => simp [hempty, writings]
    | false => simp [hempty, writings, Call.writing?, rowWriting]

/-- A row has no more characters than there are columns. -/
theorem length_le_of_mem_rows {texts : List String} (hp : p.lines = Line.ofTexts texts) {columns : Int}
    (hc : 1 ≤ columns) (hr : p.rows columns = .ok rows) {row : String} (h : row ∈ rows) : row.length ≤ columns := by
  have hpos : 0 < columns.toNat := by omega
  unfold Panel.rows at hr
  rw [hp, wrapLines_ofTexts hpos] at hr
  obtain rfl := Except.ok.inj hr
  obtain ⟨block, hblock, hrow⟩ := List.mem_flatten.mp h
  obtain ⟨text, -, rfl⟩ := List.mem_map.mp hblock
  obtain ⟨cs, hcs, rfl⟩ := List.mem_map.mp hrow
  have hlength := Text.length_le_of_mem_wrap hcs
  rw [String.length_ofList]
  omega

private theorem mem_rowWritings {w : Writing} (h : w ∈ p.rowWritings font shown) :
    ∃ row index, row ∈ shown ∧ index < shown.length ∧ w = p.rowWriting font row index := by
  obtain ⟨⟨row, index⟩, hmem, rfl⟩ := List.mem_map.mp h
  have hget := List.mk_mem_zipIdx_iff_getElem?.mp (List.mem_of_mem_filter hmem)
  obtain ⟨hindex, -⟩ := List.getElem?_eq_some_iff.mp hget
  exact ⟨row, index, List.mem_of_getElem? hget, hindex, rfl⟩

/-- Rows are written from the top down, one line further down each. -/
private theorem pairwise_rowWritings (hl : 0 ≤ font.lineHeight) (shown : List String) :
    (p.rowWritings font shown).Pairwise fun v w => v.y + font.lineHeight ≤ w.y := by
  have hindices : shown.zipIdx.Pairwise fun v w => v.2 < w.2 := by
    rw [← List.pairwise_map, List.zipIdx_map_snd]
    exact List.pairwise_lt_range'
  unfold rowWritings
  rw [List.pairwise_map]
  refine (hindices.filter _).imp fun {v w} h => ?_
  have hnext : ((v.2 : Int) + 1) * font.lineHeight ≤ w.2 * font.lineHeight :=
    Int.mul_le_mul_of_nonneg_right (by omega) hl
  rw [Int.add_mul, Int.one_mul] at hnext
  show padding + v.2 * font.lineHeight + font.lineHeight ≤ padding + w.2 * font.lineHeight
  omega

theorem rowWriting_inside (hc : 1 ≤ font.charWidth) (hl : 1 ≤ font.lineHeight)
    (hw : 2 * padding + font.charWidth ≤ p.width) (hh : 2 * font.lineHeight + 3 * padding ≤ p.height) {row : String}
    {index : Nat} (hrow : row.length ≤ p.columns font) (hindex : index < p.rowsShown font) :
    ((p.rowWriting font row index).box font).Inside (p.rowSpace font) := by
  have hright := charWidth_mul_le hc hw hrow
  have hbottom := row_bottom_le hl hh hindex
  have htop : 0 ≤ (index : Int) * font.lineHeight := Int.mul_nonneg (by omega) (by omega)
  unfold Rect.Inside Writing.box rowWriting rowSpace inputFrame
  dsimp only
  omega

/-! ### Input -/

private theorem isLongestEnd_suffix {count : Int} (hc : 0 ≤ count) (text : String) :
    IsLongestEnd count text (suffix count.toNat text) := by
  have hlength : (suffix count.toNat text).length = min count.toNat text.toList.length := by
    unfold suffix
    rw [String.length_ofList, List.length_drop]
    omega
  refine ⟨?_, by omega, fun other hother hcount => ?_⟩
  · unfold suffix
    rw [String.toList_ofList]
    exact List.drop_suffix _ _
  · have hle := hother.length_le
    omega

/-- The longest end of the line of input shows the cursor. -/
private theorem cursor_suffix {count : Int} (hc : 1 ≤ count) {tail : String} (h : IsLongestEnd count p.inputLine tail) :
    ['_'] <:+ tail.toList := by
  have hcursor : ['_'] <:+ p.inputLine.toList := by
    unfold inputLine
    rw [String.toList_append]
    exact List.suffix_append _ _
  refine List.suffix_of_suffix_length_le hcursor h.suffix ?_
  rw [String.length_toList]
  exact h.longest _ hcursor hc

private theorem inputBox_eq (h : p.FrameFits font) : p.inputBox font = .ok (p.inputFrame font) := by
  unfold inputBox Shape.pixels
  rw [Scalar.coordinate_of_fits (by decide : Word.Fits 0), Scalar.coordinate_of_fits h.top,
    Scalar.coordinate_of_fits h.width, Scalar.coordinate_of_fits h.height]
  rfl

/-! ### Drawing -/

private theorem writings_picture {box : Rect} (hbox : p.inputBox font = .ok box) (shown : List String) :
    writings (p.picture font shown).calls = p.rowWritings font shown ++
      [p.inputWriting box.y (suffix (p.columns font).toNat p.inputLine)] := by
  have hrows := p.writings_rowCalls font shown 0
  rw [Nat.cast_zero, Int.zero_mul, Int.add_zero] at hrows
  unfold picture
  rw [hbox]
  show writings (_ ++ _ ++ _ ++ _) = _
  rw [writings_append, writings_append, writings_append, hrows]
  show rowWritings p font shown ++ _ ++ [] = _
  rw [List.append_nil]
  rfl

/-- A panel with a page of rows on it is laid out, if no row is longer than there are columns and there are no more rows
than there is space for. -/
private theorem laidOut_of_picture (hc : 1 ≤ font.charWidth) (hl : 1 ≤ font.lineHeight)
    (hw : 2 * padding + font.charWidth ≤ p.width) (hh : 2 * font.lineHeight + 3 * padding ≤ p.height)
    (hf : p.FrameFits font) (hdraw : (p.draw font).2 = p.picture font shown)
    (hrow : ∀ row ∈ shown, row.length ≤ p.columns font) (hcount : shown.length ≤ p.rowsShown font) :
    p.LaidOut font shown (suffix (p.columns font).toNat p.inputLine) := by
  have hcolumns := p.columns_pos font
  have hbox := inputBox_eq hf
  have htail : (suffix (p.columns font).toNat p.inputLine).length ≤ p.columns font :=
    (isLongestEnd_suffix (by omega) p.inputLine).length_le
  have hright := charWidth_mul_le hc hw htail
  have hrows : ∀ w ∈ p.rowWritings font shown, (w.box font).Inside (p.rowSpace font) := by
    intro w hmem
    obtain ⟨row, index, hshown, hindex, rfl⟩ := mem_rowWritings hmem
    exact rowWriting_inside hc hl hw hh (hrow row hshown) (by omega)
  refine ⟨?complete, ?framed, ?written, hrows, ?inside, ?right, ?apart⟩
  case complete =>
    rw [hdraw]
    unfold picture
    rw [hbox]
    rfl
  case framed =>
    rw [hdraw]
    unfold picture
    rw [hbox]
    simp [Picture.emit, inputCalls]
  case written => rw [hdraw, writings_picture hbox]
  case inside =>
    unfold Rect.Inside Writing.box inputWriting inputFrame inputHeight
    dsimp only
    have hpadding : padding = 8 := rfl
    omega
  case right => omega
  case apart =>
    rw [hdraw, writings_picture hbox, List.pairwise_append]
    refine ⟨(pairwise_rowWritings (by omega) shown).imp Rect.not_overlaps_of_le, List.pairwise_singleton _ _,
      fun v hv w hw => Rect.not_overlaps_of_le ?_⟩
    -- a row ends above the box, and the line of input starts below its edge
    obtain rfl := List.mem_singleton.mp hw
    have hbottom : v.y + font.lineHeight ≤ padding + ((p.inputFrame font).y - padding) := (hrows v hv).2.2.2
    show v.y + font.lineHeight ≤ (p.inputFrame font).y + padding
    have hpadding : 0 ≤ padding := by decide
    omega

/-- What is drawn of a panel stands in its place, if the numbers of the box for the line of input are words: the rows on
screen from the top down, those without characters left out, and in the box the longest end of the line of input that
fits, with the cursor. -/
theorem draw_laidOut (p : Panel) {texts : List String} (hp : p.lines = Line.ofTexts texts) {font : Font}
    (hc : 1 ≤ font.charWidth) (hl : 1 ≤ font.lineHeight) (hw : 2 * padding + font.charWidth ≤ p.width)
    (hh : 2 * font.lineHeight + 3 * padding ≤ p.height) (hf : p.FrameFits font) :
    ∃ q shown tail, p.visible (p.columns font) (p.rowsShown font) = .ok (q, shown) ∧ p.LaidOut font shown tail ∧
      IsLongestEnd ((p.width - 2 * padding).fdiv font.charWidth) p.inputLine tail ∧ ['_'] <:+ tail.toList := by
  have hcolumns := p.columns_pos font
  have hshown := p.rowsShown_pos font
  obtain ⟨rows, hr⟩ := exists_rows hp hcolumns
  obtain ⟨above, below, hrows, hlength, -⟩ :=
    isPage_page hshown (Nat.min_le_right p.scrollBack (rows.length - (p.rowsShown font).toNat))
  have hdraw := congrArg Prod.snd (draw_eq (p := p) (by omega) hr)
  have htail := isLongestEnd_suffix (by omega : 0 ≤ p.columns font) p.inputLine
  refine ⟨_, _, _, visible_eq hr hshown, laidOut_of_picture hc hl hw hh hf hdraw (fun row hrow => ?_) (by omega), ?_,
    cursor_suffix hcolumns htail⟩
  · refine length_le_of_mem_rows hp hcolumns hr ?_
    rw [hrows]
    exact List.mem_append_left _ (List.mem_append_right _ hrow)
  · rw [← columns_eq hc hw]
    exact htail

/-- Four lines, one of them without characters, on a panel that is scrolled back further than there are rows above the
screen, with a line of input that does not fit. -/
theorem draw_laidOut_eggs :
    let p : Panel := ⟨0, 0, 300, 90, [some "egg", some "", some "egg", some ""],
      "train 10 i:world_animals=20 i:world_foods=30", 5, 10, .made 0⟩
    let font : Font := ⟨16, 8⟩
    p.lines = Line.ofTexts ["egg", "", "egg", ""] ∧ 1 ≤ font.charWidth ∧ 1 ≤ font.lineHeight ∧
      2 * padding + font.charWidth ≤ p.width ∧ 2 * font.lineHeight + 3 * padding ≤ p.height ∧ p.FrameFits font ∧
      p.LaidOut font ["egg", "", "egg"] ":world_animals=20 i:world_foods=30_" := by
  intro p font
  have hp : p.lines = Line.ofTexts ["egg", "", "egg", ""] := rfl
  have hc : 1 ≤ font.charWidth := by decide
  have hl : 1 ≤ font.lineHeight := by decide
  have hw : 2 * padding + font.charWidth ≤ p.width := by decide
  have hh : 2 * font.lineHeight + 3 * padding ≤ p.height := by decide
  have hf : p.FrameFits font := ⟨by decide, by decide, by decide⟩
  obtain ⟨q, shown, tail, hvisible, hlaid, hend, -⟩ := p.draw_laidOut hp hc hl hw hh hf
  have hpage := visible_eq (p := p) (rows_eggs hp) (by decide : 1 ≤ p.rowsShown font)
  have hshown : shown = ["egg", "", "egg"] :=
    (Prod.mk.inj (Except.ok.inj (hvisible.symm.trans hpage))).2.trans (by decide +kernel)
  have hcount : (p.width - 2 * padding).fdiv font.charWidth = 35 := by decide
  rw [hcount] at hend
  have htail : tail = ":world_animals=20 i:world_foods=30_" :=
    (hend.unique (isLongestEnd_suffix (by decide) p.inputLine)).trans (by decide +kernel)
  rw [hshown, htail] at hlaid
  exact ⟨hp, hc, hl, hw, hh, hf, hlaid⟩

/-- A panel so tall that the box for the line of input is elsewhere: the line is written over a row. -/
theorem not_laidOut_tall :
    let p : Panel := ⟨0, 0, 300, 4294967346, [some "egg", some "", some "egg", some ""], "", 0, 10, .made 0⟩
    let font : Font := ⟨16, 8⟩
    p.lines = Line.ofTexts ["egg", "", "egg", ""] ∧ 1 ≤ font.charWidth ∧ 1 ≤ font.lineHeight ∧
      2 * padding + font.charWidth ≤ p.width ∧ 2 * font.lineHeight + 3 * padding ≤ p.height ∧
      writings (p.draw font).2.calls =
        [⟨.made 0, "egg", 8, 8⟩, ⟨.made 0, "egg", 8, 40⟩, ⟨.made 0, "> _", 8, 26⟩] ∧
      ¬ ∃ shown tail, p.LaidOut font shown tail := by
  intro p font
  have hp : p.lines = Line.ofTexts ["egg", "", "egg", ""] := rfl
  have hr : p.rows (p.columns font) = .ok ["egg", "", "egg", ""] := rows_eggs hp
  have hbox : p.inputBox font = .ok ⟨0, 18, 300, 32⟩ := by decide +kernel
  have hdraw := congrArg Prod.snd (draw_eq (p := p) (by decide) hr)
  have hwritings : writings (p.draw font).2.calls =
      [⟨.made 0, "egg", 8, 8⟩, ⟨.made 0, "egg", 8, 40⟩, ⟨.made 0, "> _", 8, 26⟩] := by
    rw [hdraw, writings_picture hbox]
    decide +kernel
  refine ⟨hp, by decide, by decide, by decide, by decide, hwritings, ?_⟩
  rintro ⟨shown, tail, hlaid⟩
  have hapart := hlaid.apart
  rw [hwritings] at hapart
  revert hapart
  decide

end Panel

end Aviary
