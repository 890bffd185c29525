import Aviary.Command
import Aviary.Config.Override
import Aviary.Session

/-!
# The console

Commands run against a session and print lines.  A command that fails says so by a fault; what was done and printed
until then stays.  A line that is typed in is echoed, run, and followed by one line for the fault if there is one, so
nothing that a command does ends a session.
-/

namespace Aviary

/-- What came of a command: the session after it, the lines it printed, and the fault that stopped it. -/
structure Reply (E : Engine) where
  session : Session E
  printed : List Line
  fault : Option Fault

namespace Session

variable {E : Engine}

/-- Trains for `n` generations, with an empty line between two summaries. -/
def trainTimes (s : Session E) : Nat → Reply E
  | 0 => ⟨s, [], none⟩
  | n + 1 =>
    match s.train with
    | (.error fault, s') => ⟨s', [], some fault⟩
    | (.ok summary, s') =>
      if n = 0 then ⟨s', [summary], none⟩
      else
        let rest := s'.trainTimes n
        { rest with printed := summary :: some "" :: rest.printed }

/-- Starts over with the engine's defaults and the given overrides. -/
def resetWith (s : Session E) (overrides : List String) : Reply E :=
  match E.defaults.build overrides with
  | .error fault => ⟨s, [], some fault⟩
  | .ok config =>
    match s.reset config with
    | (.error fault, s') => ⟨s', [], some fault⟩
    | (.ok (), s') => ⟨s', [], none⟩

def run (s : Session E) : Command → Reply E
  | .pause => ⟨s.togglePause, [], none⟩
  | .reset overrides => s.resetWith overrides
  | .train generations => s.trainTimes generations.toNat

/-- Runs a line of input. -/
def execute (s : Session E) (line : String) : Reply E :=
  match Command.ofLine line with
  | .error fault => ⟨s, [], some fault⟩
  | .ok command => s.run command

end Session

namespace Console

/-- What stands before an echoed line. -/
def echo : String := "$ "

/-- What stands before the message of a fault. -/
def complaint : String := "  ^ err: "

/-- The lines shown for the fault of a command. -/
def complaints : Option Fault → List Line
  | none => []
  | some fault => [some (complaint ++ fault.message)]

end Console

/-- Answers a line that was typed in: the session after it, and the lines to show. -/
def Session.answer {E : Engine} (s : Session E) (line : String) : Session E × List Line :=
  let reply := s.execute line
  (reply.session, [some "", some (Console.echo ++ line)] ++ reply.printed ++ Console.complaints reply.fault)

/-- The line that is submitted when `text` was typed: the text without blanks at its ends, unless nothing is left. -/
def submission? (text : String) : Option String :=
  match Text.trim text.toList with
  | [] => none
  | line => some (String.ofList line)

/-- Submits `text` as typed input. -/
def Session.feed {E : Engine} (s : Session E) (text : String) : Session E × List Line :=
  match submission? text with
  | none => (s, [])
  | some line => s.answer line

end Aviary
