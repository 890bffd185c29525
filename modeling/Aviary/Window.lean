import Aviary.Panel
import Aviary.Redraw
import Aviary.Scenario
import Aviary.Viewport

/-!
# The window

The window shows the world on the left and the terminal panel on the right, with a status line over the world.  Keys
that are not for the panel close the window, hide or show the panel, and hide or show the status line; what is typed
while the panel is hidden is lost.
-/

namespace Aviary

/-- What frames are drawn with: the canvas, and the world that was drawn on it last. -/
structure Renderer where
  canvas : Surface
  lastWorld : Option World

structure Window (E : Engine) where
  width : Int
  height : Int
  panelShown : Bool
  statusShown : Bool
  running : Bool
  /-- How long the last frames took, oldest first. -/
  frameTimes : List Float
  /-- How many frames were timed so far. -/
  timed : Nat
  session : Session E
  panel : Panel
  renderer : Option Renderer
  /-- How many surfaces were made so far. -/
  surfaces : Nat

namespace Window

variable {E : Engine} [Memory]

def panelWidth : Int := 420

def framesPerSecond : Nat := 60

/-- How many frames the frame rate is averaged over. -/
def averagedFrames : Nat := 30

def caption : String := "Evolution Simulation"

/-- The height of the status line. -/
def statusHeight : Int := 24

/-- Prints lines to the panel. -/
def print (w : Window E) (lines : List Line) : Window E := { w with panel := w.panel.printAll lines }

/-- Runs a line of input as if it had been typed into the panel. -/
def enter (w : Window E) (line : String) : Window E :=
  let (session, lines) := w.session.answer line
  { w with session }.print lines

/-- A window of the given size for the world, with the introduction on its panel and the scenario's command entered if
there is a scenario of that name.  The call makes the surface of the panel. -/
def make (E : Engine) (width height : Int) (scenario : Option String) :
    Except Fault (Window E × Call Number) := do
  let session ← Session.start E E.defaults true
  let (panel, call) ← Panel.make 0 width 0 panelWidth height
  let w : Window E :=
    { width, height, panelShown := true, statusShown := true, running := true, frameTimes := [], timed := 0, session,
      panel := panel.printAll (Line.ofTexts Introduction.lines), renderer := none, surfaces := 1 }
  let w := match scenario.bind Scenario.find? with
    | some s => w.enter s.command
    | none => w
  return ({ w with panel := w.panel.scrollToTop }, call)

/-- The width of the whole window. -/
def totalWidth (w : Window E) : Int := w.width + if w.panelShown then panelWidth else 0

/-- Makes the canvas to draw frames on. -/
def build (w : Window E) : Except Fault (Window E × Call Number) := do
  let (canvas, call) ← Surface.make (.made w.surfaces) w.width w.height false
  return ({ w with renderer := some ⟨canvas, none⟩, surfaces := w.surfaces + 1 }, call)

/-- Gives the window its size. -/
def setMode (w : Window E) : Picture (Call Number) :=
  (Picture.emit [.setMode w.totalWidth w.height]).andThen <|
    .ofExcept (Surface.size w.totalWidth w.height) fun _ => .done

/-- Handles the keys that are for the window.  `none`: the key is for the panel. -/
def handleKey (w : Window E) : Key → Option (Window E × Picture (Call Number))
  | .escape => some ({ w with running := false }, .done)
  | .tab =>
    let w := { w with panelShown := !w.panelShown }
    some (w, w.setMode)
  | .f1 => some ({ w with statusShown := !w.statusShown }, .done)
  | _ => none

/-- Hands an event to the panel and runs the line that it submits. -/
def handlePanel (w : Window E) (event : Event) : Window E × Bool :=
  let (panel, response) := w.panel.handle event
  let w := { w with panel }
  match response with
  | .submitted line => (w.enter line, true)
  | _ => (w, response.isHandled)

/-- Hands an event to the panel if the panel is there to be seen. -/
def handleIfShown (w : Window E) (event : Event) : Window E :=
  if w.panelShown then (w.handlePanel event).1 else w

/-- Handles one event of the running window. -/
def handle (w : Window E) (event : Event) : Window E × Picture (Call Number) :=
  match event with
  | .quit => ({ w with running := false }, .done)
  | .keyDown key =>
    match w.handleKey key with
    | some result => result
    | none => (w.handleIfShown event, .done)
  | _ => (w.handleIfShown event, .done)

/-- Handles events in order, up to the first that fails. -/
def drain (w : Window E) : List Event → Window E × Picture (Call Number)
  | [] => (w, .done)
  | event :: events =>
    let (w, first) := w.handle event
    match first.fault with
    | some _ => (w, first)
    | none =>
      let (w, rest) := w.drain events
      (w, first.andThen rest)

/-- Adds rows of eight floats to eight running sums. -/
def addRows (sums : List Float) : Nat → List Float → List Float
  | 0, _ => sums
  | n + 1, xs => addRows (List.zipWith (· + ·) sums (xs.take 8)) n (xs.drop 8)

/-- The sum of eight floats, added in pairs. -/
def pairwise : List Float → Float
  | [a, b, c, d, e, f, g, h] => ((a + b) + (c + d)) + ((e + f) + (g + h))
  | xs => xs.foldl (· + ·) 0

/-- Sums floats in eight lanes, each of which takes every eighth; the lanes are added in pairs, and what does not fill
all lanes is added at the end. -/
def laneSum (xs : List Float) : Float :=
  let rows := xs.length / 8
  let start := if rows = 0 then -0.0 else pairwise (addRows (xs.take 8) (rows - 1) (xs.drop 8))
  (xs.drop (8 * rows)).foldl (· + ·) start

/-- The frame rate for frames that took the given times, at most a thousand. -/
def frameRate (times : List Float) : Float :=
  let mean := laneSum times / Binary64.ofInt times.length
  1.0 / (if mean < 0.001 then 0.001 else mean)

/-- The world drawn last. -/
def lastWorld (w : Window E) : Option World := w.renderer.bind (·.lastWorld)

/-- The status line: what was drawn last, and the frame rate. -/
def statusLine (w : Window E) (rate : Float) : String :=
  let animals := (w.lastWorld.map (·.animals.length)).getD 0
  let foods := (w.lastWorld.map (·.foods.length)).getD 0
  (if w.session.active then "" else "[PAUSED]  ") ++ "Animals: " ++ toString animals ++ "  |  Foods: "
    ++ toString foods ++ "  |  FPS: " ++ Decimal.fixed 0 rate

/-- Lets a frame of the session pass and paints its scene on the canvas. -/
def redraw (w : Window E) : Window E × Picture (Call Number) :=
  match w.renderer with
  | none => (w, .stop .notBuilt)
  | some renderer =>
    let frame := w.session.redraw
    let w := { w with session := frame.session }.print frame.printed
    match frame.scene with
    | .error fault => (w, .stop fault)
    | .ok (world, scene) =>
      let picture := Viewport.paintPicture renderer.canvas w.surfaces scene
      ({ w with renderer := some { renderer with lastWorld := some world },
                surfaces := w.surfaces + surfacesMade picture.calls }, picture)

/-- Counts a frame that took the given time. -/
def countFrame (w : Window E) (time : Float) : Window E :=
  let times := w.frameTimes ++ [time]
  { w with frameTimes := times.drop (times.length - averagedFrames), timed := w.timed + 1 }

/-- Draws the status line onto the screen. -/
def drawStatus (w : Window E) : Window E × Picture (Call Number) :=
  if !w.statusShown then (w, .done)
  else
    let shade : SurfaceId := .made w.surfaces
    match Surface.make shade w.width statusHeight true with
    | .error fault => (w, .stop fault)
    | .ok (_, call) =>
      ({ w with surfaces := w.surfaces + 1 },
        .emit [call, .fill shade .statusShade, .blit .screen (.surface shade) 0 0,
          .blit .screen (.text (w.statusLine (frameRate w.frameTimes)) .brightText) 10 6])

/-- Draws the panel onto the screen if it is shown. -/
def drawPanel (w : Window E) (font : Font) : Window E × Picture (Call Number) :=
  if !w.panelShown then (w, .done)
  else
    let (panel, resized) := w.panel.resize w.surfaces w.width w.height
    let w := { w with panel, surfaces := w.surfaces + surfacesMade resized.calls }
    match resized.fault with
    | some _ => (w, resized)
    | none =>
      let (panel, drawn) := w.panel.draw font
      ({ w with panel }, resized.andThen drawn)

/-- The call that copies the canvas onto the screen. -/
def showCanvas (w : Window E) : Picture (Call Number) :=
  match w.renderer with
  | none => .done
  | some renderer => .emit [.blit .screen (.surface renderer.canvas.id) 0 0]

/-- Draws a frame that takes the given time. -/
def frame (w : Window E) (font : Font) (time : Float) : Window E × Picture (Call Number) :=
  let (w, picture) := w.redraw
  if picture.fault.isSome then (w, picture)
  else
    let (w, status) := (w.countFrame time).drawStatus
    let picture := (picture.andThen w.showCanvas).andThen status
    if status.fault.isSome then (w, picture)
    else
      let (w, panel) := w.drawPanel font
      (w, picture.andThen panel)

/-- Starts up the display. -/
def start (w : Window E) : Picture (Call Number) :=
  ((Picture.emit [.init]).andThen w.setMode).andThen
    (.emit [.setCaption caption, .font "menlo" 13, .font "menlo" 13, .startTextInput])

/-- What a run of the window drew: the calls up to the first time events were asked for, those from then to the next
time, and so on; the fault that ended it, if there was one; and the window as it was then. -/
structure Run (E : Engine) where
  batches : List (List (Call Number))
  fault : Option Fault
  window : Window E

/-- A run in which events were not asked for again. -/
def Run.ofPicture (w : Window E) (picture : Picture (Call Number)) : Run E := ⟨[picture.calls], picture.fault, w⟩

/-- Runs the window from asking for events on.  The batches of events come one per frame, and when there are no more
the window is closed.  `time` gives how long each frame takes. -/
def loop (font : Font) (time : Nat → Float) (w : Window E) : List (List Event) → Run E
  | [] =>
    let (w, handled) := w.drain [.quit]
    .ofPicture w (handled.andThen (.emit [.quit]))
  | events :: rest =>
    let (w, handled) := w.drain events
    if handled.fault.isSome then .ofPicture w handled
    else if !w.running then .ofPicture w (handled.andThen (.emit [.quit]))
    else
      let (w, picture) := w.frame font (time w.timed)
      let picture := handled.andThen picture
      if picture.fault.isSome then .ofPicture w picture
      else
        let run := loop font time w rest
        { run with batches := (picture.calls ++ [.flip, .tick framesPerSecond]) :: run.batches }

/-- Opens the window and runs it until it is closed. -/
def run (w : Window E) (font : Font) (time : Nat → Float) (events : List (List Event)) : Run E :=
  if w.start.fault.isSome then .ofPicture w w.start
  else
    match w.build with
    | .error fault => .ofPicture w (w.start.andThen (.stop fault))
    | .ok (w', call) =>
      let opened := w.start.andThen (.emit [call])
      if w'.running then
        let run := loop font time w' events
        { run with batches := opened.calls :: run.batches }
      else .ofPicture w' (opened.andThen (.emit [.quit]))

end Window

end Aviary
