import Aviary.Engine

/-!
# Scripted engines

An engine that plays a script: it says in advance what becomes of every attempt to build a simulation and of every
step and training of one simulation.  It checks nothing.
-/

namespace Aviary.Engine

/-- What a scripted engine plays. -/
structure Script where
  defaults : Config
  world : World
  /-- What happens to the attempts to build a simulation, in order; later attempts succeed. -/
  builds : List (Option Fault)
  /-- What the steps of a simulation give, in order; later steps give nothing. -/
  steps : List (Except Fault (Option String))
  /-- What the trainings of a simulation give, in order; later ones give an empty summary. -/
  trainings : List (Except Fault Line)

namespace Script

structure State where
  config : Config
  /-- What is left to play. -/
  steps : List (Except Fault (Option String))
  trainings : List (Except Fault Line)

def build (script : Script) (builds : List (Option Fault)) (c : Config) :
    Except Fault State × List (Option Fault) :=
  match builds with
  | some fault :: rest => (.error fault, rest)
  | _ => (.ok ⟨c, script.steps, script.trainings⟩, builds.tail)

def step (s : State) : Except Fault (Option String) × State :=
  (s.steps.headD (.ok none), { s with steps := s.steps.tail })

def train (s : State) : Except Fault Line × State :=
  (s.trainings.headD (.ok (some "")), { s with trainings := s.trainings.tail })

end Script

/-- The engine that plays a script. -/
def scripted (script : Script) : Engine where
  State := Script.State
  Factory := List (Option Fault)
  factory := script.builds
  defaults := script.defaults
  build := script.build
  config s := s.config
  world _ := .ok script.world
  step := Script.step
  train := Script.train

end Aviary.Engine
