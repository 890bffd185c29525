import Aviary.Engine.Catalogue
import Aviary.Window

/-!
# The command line

The arguments are read from left to right into settings, up to the first that asks for help or cannot be used.  With
settings, the program loads an engine and either lists what can be configured, trains without a window, or opens the
window.
-/

namespace Aviary.CommandLine

/-- The version of the program. -/
def version : String := "0.1.0"

/-- What the arguments ask for. -/
structure Settings where
  scenario : Option String := none
  enginePath : String := "lib_simulation:Simulation"
  width : Int := 800
  height : Int := 800
  train : Int := 0
  list : Bool := false
  deriving DecidableEq

/-- The text that explains the arguments. -/
def help : List String := [
  "",
  "Evolution Simulation - Entry Point",
  "",
  "Usage:",
  "    python -m evolution_sim [scenario] [--engine module:Class] [--window WxH]",
  "                            [--train N] [--list]",
  "",
  "Examples:",
  "    python -m evolution_sim",
  "    python -m evolution_sim zombies",
  "    python -m evolution_sim --window 1000x1000",
  "    python -m evolution_sim narrow --train 20",
  "",
  "Options:",
  "    --engine module:Class   Engine to drive (default: lib_simulation:Simulation)",
  "    --window WxH            Canvas size in pixels (default: 800x800)",
  "    --train N               Headless: train N generations, print summaries, exit",
  "    --list                  Show scenarios and the engine's config fields",
  "",
  "Use --list to see all available scenarios.",
  ""]

/-- What became of reading the arguments. -/
inductive Scan where
  /-- Nothing is to be done but to print lines and to exit. -/
  | stop (lines : List String) (status : Nat)
  | proceed (settings : Settings)
  deriving DecidableEq

/-- Reads a size, two integers with an `x` between them. -/
def size? (text : String) : Option (Int × Int) :=
  match text.toList.dropWhile (· != 'x') with
  | [] => none
  | _ :: height => do
    return (← Literal.integer? (text.toList.takeWhile (· != 'x')), ← Literal.integer? height)

/-- Reads arguments on top of the settings made so far. -/
def scan (s : Settings) : List String → Scan
  | [] => .proceed s
  | "--engine" :: path :: rest => scan { s with enginePath := path } rest
  | "--window" :: size :: rest =>
    match size? size with
    | some (width, height) => scan { s with width, height } rest
    | none => .stop ["Invalid window size: " ++ size ++ " (expected WxH, e.g. 800x800)"] 2
  | "--train" :: count :: rest =>
    match Literal.integer? count.toList with
    | some train => scan { s with train } rest
    | none => .stop ["Invalid generation count: " ++ count] 2
  | arg :: rest =>
    if arg = "--list" then scan { s with list := true } rest
    else if arg = "--help" || arg = "-h" then .stop help 0
    else if (Scenario.find? arg).isSome then scan { s with scenario := some arg } rest
    else .stop ["Unknown argument: " ++ arg, "Use --list to see available scenarios"] 2

/-- `text` and as many spaces behind it as make up `width` characters. -/
def pad (width : Nat) (text : String) : String :=
  text ++ String.ofList (List.replicate (width - text.length) ' ')

/-- How a kind of number is marked in front of the name of a field. -/
def mark : Kind → String
  | .whole => "i"
  | .real => "f"

/-- The lines that list the scenarios. -/
def scenarioLines : List String :=
  ["", "Available scenarios:"]
    ++ Scenario.all.map (fun s => "    " ++ pad 12 s.key ++ " " ++ pad 42 s.command ++ " " ++ s.description)

/-- The lines that list the fields of a configuration. -/
def fieldLines (c : Config) : List String :=
  c.fields.map fun f => "    " ++ mark f.2.kind ++ ":" ++ pad 24 f.1 ++ " " ++ f.2.text

/-- What the display of a window gives to the program. -/
structure Display where
  font : Font
  /-- How long each frame takes. -/
  time : Nat → Float
  /-- The events that happened before each frame. -/
  events : List (List Event)

/-- What a run of the program came to: the lines it printed, what the display showed between two times that events
were asked for, and the exit status or the fault that ended it. -/
structure Report where
  printed : List Line
  shown : List (List (Call Number))
  outcome : Except Fault Nat

/-- A run that did not open a window. -/
def Report.ofLines (printed : List Line) (outcome : Except Fault Nat) : Report := ⟨printed, [[]], outcome⟩

/-- A run that did not open a window and printed the given texts. -/
def Report.ofTexts (texts : List String) (outcome : Except Fault Nat) : Report := .ofLines (Line.ofTexts texts) outcome

/-- The end of a run that could not start a simulation.  Only what the console would refuse is explained. -/
def Report.ofFault (printed : List String) (fault : Fault) : Report :=
  if fault.isRefusal then .ofTexts (printed ++ ["Could not start simulation: " ++ fault.message]) (.ok 1)
  else .ofTexts printed (.error fault)

/-- Trains without a window: enters the scenario's command and then a command to train. -/
def headless (E : Engine) (generations : Int) (scenario : Option String) :
    Except Fault (Session E × List Line) := do
  let session ← Session.start E E.defaults true
  let (session, before) ←
    match scenario with
    | none => pure (session, [])
    | some key =>
      if key.isEmpty then pure (session, [])
      else
        match Scenario.find? key with
        | none => throw .unknownScenario
        | some s => pure (session.feed s.command)
  let (session, lines) := session.feed ("train " ++ toString generations)
  return (session, before ++ lines)

/-- Lists the scenarios and the fields of the engine's defaults. -/
def list (engine : Except Fault Engine) : Report :=
  let heading := scenarioLines ++ ["", "Config fields (override with i:<field>=N or f:<field>=X):"]
  match engine with
  | .error fault => .ofFault heading fault
  | .ok E =>
    match Session.start E E.defaults true with
    | .error fault => .ofFault heading fault
    | .ok _ => .ofTexts (heading ++ fieldLines E.defaults ++ [""]) (.ok 0)

/-- Trains without a window. -/
def train (engine : Except Fault Engine) (s : Settings) : Report :=
  let heading := ["Headless training: " ++ toString s.train ++ " generation(s)"
    ++ (match s.scenario with | none => "" | some key => ", scenario " ++ key)]
  match engine with
  | .error fault => .ofFault heading fault
  | .ok E =>
    match headless E s.train s.scenario with
    | .error fault => .ofFault heading fault
    | .ok (_, lines) => .ofLines (Line.ofTexts heading ++ lines) (.ok 0)

/-- Opens the window. -/
def openWindow [Memory] (engine : Except Fault Engine) (s : Settings) (display : Display) : Report :=
  let heading := ["Starting Evolution Simulation", "  Engine: " ++ s.enginePath]
    ++ (match s.scenario with | none => [] | some key => ["  Scenario: " ++ key])
    ++ ["  Window: " ++ toString s.width ++ "x" ++ toString s.height, ""]
  match engine with
  | .error fault => .ofFault heading fault
  | .ok E =>
    match Window.make E s.width s.height s.scenario with
    | .error fault => .ofFault heading fault
    | .ok (w, call) =>
      let run := w.run display.font display.time display.events
      let shown := match run.batches with
        | [] => [[call]]
        | first :: rest => (call :: first) :: rest
      ⟨Line.ofTexts heading, shown, match run.fault with | none => .ok 0 | some fault => .error fault⟩

/-- Does what the settings ask for. -/
def perform [Memory] (catalogue : Catalogue) (display : Display) (s : Settings) : Report :=
  match catalogue.load s.enginePath with
  | .error (.relative name) => .ofTexts [] (.error (.relativeModule name))
  | .error fault => .ofTexts ["Could not load engine: " ++ fault.message] (.ok 1)
  | .ok entry =>
    if s.list then list entry.engine
    else if 0 < s.train then train entry.engine s
    else openWindow entry.engine s display

/-- Runs the program on its arguments. -/
def run [Memory] (catalogue : Catalogue) (display : Display) (args : List String) : Report :=
  match scan {} args with
  | .stop lines status => .ofTexts lines (.ok status)
  | .proceed s => perform catalogue display s

end Aviary.CommandLine
