import Aviary.CommandLine
import Aviary.Engine.Sample

/-!
# The program

Without a display of its own the program closes a window at once; training and listing need none.
-/

namespace Aviary

/-- The engines that come with the program. -/
def Catalogue.builtIn [Memory] : Catalogue :=
  ⟨[{ name := "sample", isPackage := false, entries := [⟨"Engine", "Engine", .ok Engine.sample⟩] }]⟩

/-- A display on which nothing happens. -/
def CommandLine.Display.still : CommandLine.Display := { font := ⟨16, 8⟩, time := fun _ => 0, events := [] }

end Aviary

open Aviary

def main (args : List String) : IO UInt32 := do
  let report := CommandLine.run .builtIn .still args
  IO.print (transcript report.printed)
  match report.outcome with
  | .ok status => return status.toUInt32
  | .error fault =>
    IO.eprintln fault.message
    return 1
