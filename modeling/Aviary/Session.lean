import Aviary.Engine

/-!
# Sessions

A session is the simulation that is installed at the moment and whether it is running.  The console and the picture
share it.  A simulation that could not be built leaves the installed one in place.
-/

namespace Aviary

/-- An installed simulation, with the numbers of times it was asked to step and to train. -/
structure Simulation (E : Engine) where
  state : E.State
  steps : Nat
  trains : Nat

structure Session (E : Engine) where
  factory : E.Factory
  simulation : Simulation E
  /-- How many simulations were built so far. -/
  built : Nat
  /-- Whether the simulation is running rather than paused. -/
  active : Bool

namespace Session

variable {E : Engine}

/-- A session with a simulation built from `config`. -/
def start (E : Engine) (config : Config) (active : Bool) : Except Fault (Session E) :=
  match E.build E.factory config with
  | (.error fault, _) => .error (.construction fault)
  | (.ok state, factory) => .ok { factory, simulation := ⟨state, 0, 0⟩, built := 1, active }

/-- Builds a simulation from `config` and installs it in place of the old one. -/
def reset (s : Session E) (config : Config) : Except Fault Unit × Session E :=
  match E.build s.factory config with
  | (.error fault, factory) => (.error (.construction fault), { s with factory })
  | (.ok state, factory) => (.ok (), { s with factory, simulation := ⟨state, 0, 0⟩, built := s.built + 1 })

def togglePause (s : Session E) : Session E := { s with active := !s.active }

/-- The configuration of the installed simulation. -/
def config (s : Session E) : Config := E.config s.simulation.state

def world (s : Session E) : Except Fault World := E.world s.simulation.state

/-- Lets the simulation step, running or not. -/
def step (s : Session E) : Except Fault (Option String) × Session E :=
  let (result, state) := E.step s.simulation.state
  (result, { s with simulation := { s.simulation with state, steps := s.simulation.steps + 1 } })

/-- Lets the simulation train for one generation. -/
def train (s : Session E) : Except Fault Line × Session E :=
  let (result, state) := E.train s.simulation.state
  (result, { s with simulation := { s.simulation with state, trains := s.simulation.trains + 1 } })

end Session

end Aviary
