import Aviary.Console
import Aviary.Drawing
import Aviary.Event
import Aviary.Picture
import Aviary.Shape
import Aviary.Text.Wrap

/-!
# The terminal panel

A panel shows the end of the lines printed so far, broken into rows, above a line of input.  It can be scrolled: the
scroll position counts rows back from the newest one, and zero follows new output.

Main statement: after the position is clamped, the rows on screen are the last ones before it (`page_eq`).
-/

namespace Aviary

/-- The measures of a font in which every character has the same width. -/
structure Font where
  lineHeight : Int
  charWidth : Int
  deriving DecidableEq

/-- The terminal panel at the side of a window. -/
structure Panel where
  x : Int
  y : Int
  width : Int
  height : Int
  lines : List Line
  input : String
  /-- How many rows the view is scrolled back from the newest one. -/
  scrollBack : Nat
  /-- How many rows were on screen when the panel was last drawn. -/
  pageRows : Nat
  surface : SurfaceId
  deriving DecidableEq

namespace Panel

/-- The scroll position that is beyond the first row of any scrollback. -/
def farthest : Nat := 9223372036854775807

/-- How many rows a step of the wheel scrolls. -/
def wheelRows : Int := 3

/-- The distance between the rows and the border of the panel. -/
def padding : Int := 8

/-- What stands before the text typed so far. -/
def prompt : String := "> "

/-- A new panel without lines, and the call that makes its surface; `made` surfaces exist before. -/
def make [Memory] (made : Nat) (x y width height : Int) : Except Fault (Panel × Call Number) := do
  let (surface, call) ← Surface.make (.made made) width height false
  return ({ x, y, width, height, lines := [], input := "", scrollBack := 0, pageRows := 10, surface := surface.id },
    call)

/-- Prints a line and goes back to the newest rows. -/
def println (p : Panel) (line : Line) : Panel := { p with lines := p.lines ++ [line], scrollBack := 0 }

def printAll (p : Panel) (lines : List Line) : Panel := lines.foldl println p

/-- Goes to the first row; how far that is shows when the panel is drawn. -/
def scrollToTop (p : Panel) : Panel := { p with scrollBack := farthest }

/-- Moves the panel and gives it another height, which takes another surface. -/
def resize [Memory] (p : Panel) (made : Nat) (x height : Int) : Panel × Picture (Call Number) :=
  let p := { p with x }
  if height = p.height then (p, .done)
  else
    let p := { p with height }
    match Surface.make (.made made) p.width height false with
    | .error fault => (p, .stop fault)
    | .ok (surface, call) => ({ p with surface := surface.id }, .emit [call])

/-- What a panel makes of an event. -/
inductive Response where
  /-- The event means nothing to a panel. -/
  | ignored
  | consumed
  /-- A line of input was submitted. -/
  | submitted (line : String)
  deriving DecidableEq

def Response.isHandled : Response → Bool
  | ignored => false
  | _ => true

/-- Takes the text typed so far as input. -/
def submit (p : Panel) : Panel × Option String := ({ p with input := "" }, submission? p.input)

def scroll (p : Panel) (rows : Int) : Panel := { p with scrollBack := (p.scrollBack + rows).toNat }

/-- Handles typing, editing and scrolling. -/
def handle (p : Panel) : Event → Panel × Response
  | .text typed => ({ p with input := p.input ++ typed }, .consumed)
  | .keyDown .enter | .keyDown .keypadEnter =>
    match p.submit with
    | (p', some line) => (p', .submitted line)
    | (p', none) => (p', .consumed)
  | .keyDown .backspace => ({ p with input := String.ofList p.input.toList.dropLast }, .consumed)
  | .keyDown .pageUp => (p.scroll p.pageRows, .consumed)
  | .keyDown .pageDown => (p.scroll (-p.pageRows), .consumed)
  | .wheel steps => (p.scroll (steps * wheelRows), .consumed)
  | _ => (p, .ignored)

/-- The rows of a line broken at the given number of columns. -/
def wrapLine (columns : Int) : Line → Except Fault (List String)
  | none => .error .missingLine
  | some text =>
    if h : 0 < columns.toNat then .ok ((Text.wrap columns.toNat h text.toList).map String.ofList)
    else .error (.noColumns columns)

/-- The rows of lines, in order. -/
def wrapLines (columns : Int) (lines : List Line) : Except Fault (List String) := do
  return (← lines.mapM (wrapLine columns)).flatten

/-- The rows of the scrollback. -/
def rows (p : Panel) (columns : Int) : Except Fault (List String) := wrapLines columns p.lines

/-- The elements from `start` up to `stop`, where a negative `stop` counts from the end. -/
def slice {α : Type} (xs : List α) (start stop : Int) : List α :=
  let stop := if stop < 0 then stop + xs.length else stop
  (xs.take stop.toNat).drop start.toNat

/-- The scroll position, clamped so that a page of `count` rows is full if there are as many. -/
def clampScroll (total : Nat) (count : Int) (scrollBack : Nat) : Nat := min scrollBack (total - count).toNat

/-- The page of `count` rows that ends `back` rows before the end. -/
def page (rows : List String) (count : Int) (back : Nat) : List String :=
  let stop : Int := rows.length - back
  slice rows (max 0 (stop - count)) stop

/-- The rows on screen and the panel with its scroll position clamped. -/
def visible (p : Panel) (columns count : Int) : Except Fault (Panel × List String) := do
  let rows ← p.rows columns
  let back := clampScroll rows.length count p.scrollBack
  return ({ p with scrollBack := back }, page rows count back)

/-- The colour of a row, by what it starts with. -/
def rowColor (row : String) : Color :=
  if "  ^ err:".toList.isPrefixOf row.toList then .error
  else if Console.echo.toList.isPrefixOf row.toList then .brightText
  else .text

/-- The last `n` characters of a text. -/
def suffix (n : Nat) (text : String) : String :=
  String.ofList (text.toList.drop (text.toList.length - n))

/-- How many characters fit on a row. -/
def columns (p : Panel) (font : Font) : Int := max 1 ((p.width - 2 * padding).fdiv (max 1 font.charWidth))

/-- The height of the box with the line of input. -/
def inputHeight (font : Font) : Int := font.lineHeight + 2 * padding

/-- The calls that draw rows from a height on down; an empty row only takes its space. -/
def rowCalls (on : SurfaceId) (lineHeight : Int) (top : Int) : List String → List (Call Number)
  | [] => []
  | row :: rows =>
    (if row.isEmpty then [] else [.blit on (.text row (rowColor row)) padding top])
      ++ rowCalls on lineHeight (top + lineHeight) rows

/-- The line of input as it is shown: the prompt, the text typed so far and a cursor. -/
def inputLine (p : Panel) : String := prompt ++ p.input ++ "_"

/-- The box with the line of input, at the bottom of the panel. -/
def inputBox (p : Panel) (font : Font) : Except Fault Rect :=
  Shape.pixels Number 0 (p.height - inputHeight font) p.width (inputHeight font)

/-- The calls that draw the line of input in its box. -/
def inputCalls (p : Panel) (font : Font) (box : Rect) : List (Call Number) :=
  [.rect p.surface .input box,
   .blit p.surface (.text (suffix (p.columns font).toNat p.inputLine) .brightText) padding (box.y + padding)]

/-- Draws the panel onto the screen. -/
def draw (p : Panel) (font : Font) : Panel × Picture (Call Number) :=
  let frame : List (Call Number) := [.fill p.surface .panel, .line p.surface .divider 0 0 0 p.height]
  if font.lineHeight = 0 then (p, ⟨frame, some .zeroLineHeight⟩)
  else
    let count := max 1 ((p.height - inputHeight font - padding).fdiv font.lineHeight)
    let p := { p with pageRows := count.toNat }
    match p.visible (p.columns font) count with
    | .error fault => (p, ⟨frame, some fault⟩)
    | .ok (p, rows) =>
      let frame := frame ++ rowCalls p.surface font.lineHeight padding rows
      match p.inputBox font with
      | .error fault => (p, ⟨frame, some fault⟩)
      | .ok box => (p, .emit (frame ++ p.inputCalls font box ++ [.blit .screen (.surface p.surface) p.x p.y]))

/-- Printing touches the lines and the scroll position only. -/
theorem exists_printAll_eq (p : Panel) (lines : List Line) :
    ∃ scrollBack, p.printAll lines = { p with lines := p.lines ++ lines, scrollBack } := by
  induction lines generalizing p with
  | nil => exact ⟨p.scrollBack, by simp [printAll]⟩
  | cons line lines ih =>
    obtain ⟨scrollBack, h⟩ := ih (p.println line)
    refine ⟨scrollBack, ?_⟩
    show (p.println line).printAll lines = _
    rw [h]
    simp [println]

theorem lines_printAll (p : Panel) (lines : List Line) : (p.printAll lines).lines = p.lines ++ lines := by
  obtain ⟨_, h⟩ := p.exists_printAll_eq lines
  rw [h]

/-- A page ends `back` rows before the end and starts `count` rows earlier, or with the first row. -/
theorem page_eq {rows : List String} {count : Int} {back : Nat} (hc : 0 ≤ count) (hb : back ≤ rows.length) :
    page rows count back = (rows.take (rows.length - back)).drop (rows.length - back - count.toNat) := by
  have h1 : ¬((rows.length : Int) - back < 0) := by omega
  have h2 : ((rows.length : Int) - back).toNat = rows.length - back := by omega
  have h3 : (max 0 ((rows.length : Int) - back - count)).toNat = rows.length - back - count.toNat := by omega
  simp only [page, slice, h1, if_false, h2, h3]

end Panel

end Aviary
