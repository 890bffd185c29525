import Aviary.Config
import Aviary.Line
import Aviary.World

/-!
# Engines

An engine builds simulations from configurations and runs them.  It is a record of functions on two types of its own:
the state of one simulation, and what the engine remembers from one attempt to build a simulation to the next.
Whatever an engine does may fail, and a failed step or training may still have changed the simulation.
-/

namespace Aviary

structure Engine where
  /-- One simulation. -/
  State : Type
  /-- What is kept between attempts to build a simulation. -/
  Factory : Type
  factory : Factory
  defaults : Config
  build : Factory → Config → Except Fault State × Factory
  /-- The configuration that a simulation was built with. -/
  config : State → Config
  world : State → Except Fault World
  /-- Advances by one tick; gives a summary if the tick ended a generation. -/
  step : State → Except Fault (Option String) × State
  /-- Runs to the end of the generation; gives its summary, which may be missing. -/
  train : State → Except Fault Line × State

end Aviary
