import Aviary.Engine

/-!
# The sample engine

A deterministic engine without evolution: the animals stand in a row across the middle of the world and the food in a
row above them, every eye senses more energy from cell to cell, and a generation ends after a fixed number of ticks.
It refuses configurations that no world fits.
-/

namespace Aviary.Engine.Sample

/-- The configuration that a simulation starts with. -/
def defaults : Config := Config.ofList [
  ("brain_neurons", .whole 9),
  ("eye_fov_range", .real 0.25),
  ("eye_fov_angle", .real 3.5),
  ("eye_cells", .whole 9),
  ("food_size", .real 0.01),
  ("ga_reverse", .whole 0),
  ("ga_mut_chance", .real 0.01),
  ("ga_mut_coeff", .real 0.3),
  ("sim_speed_min", .real 0.001),
  ("sim_speed_max", .real 0.005),
  ("sim_generation_length", .whole 3),
  ("world_animals", .whole 4),
  ("world_foods", .whole 6)]

structure State where
  config : Config
  /-- How many generations have ended. -/
  generation : Nat
  /-- How many ticks the current generation has lasted. -/
  age : Nat

/-- Refuses a configuration without eye cells, with a negative number of animals or food, or with food of no size. -/
def check (c : Config) : Except Fault Unit := do
  if (← c.get "eye_cells").lt (.whole 1) then throw .noEyeCells
  if (← c.get "world_animals").lt (.whole 0) then throw .negativePopulation
  if (← c.get "world_foods").lt (.whole 0) then throw .negativePopulation
  if (← c.get "food_size").le (.whole 0) then throw .foodSizeNotPositive

def build (c : Config) : Except Fault State := do
  check c
  return ⟨c, 0, 0⟩

/-- How many things a number of things is; a float counts nothing. -/
def quantity : Number → Except Fault Nat
  | .whole n => .ok n.toNat
  | .real _ => .error .fractionalCount

/-- The fractions `1 / d`, `2 / d`, …, `n / d`. -/
def fractions (n : Nat) (d : Int) : List Number :=
  (List.range n).map fun (i : Nat) => .real (Binary64.quotient (i + 1) d)

variable [Memory]

/-- The animals of a world with `n` of them and the given number of eye cells.  Where there is no animal, no cell is
counted. -/
def animals (n : Nat) (cells : Number) : Except Fault (List Animal) :=
  match n with
  | 0 => .ok []
  | n + 1 => do
    let k ← quantity cells
    Memory.grant [.list (n + 1) (k + 3)]
    let vision := fractions k k
    return (fractions (n + 1) (n + 2)).mapIdx fun i x =>
      { x, y := .real 0.5, rotation := .real (0.1 * Binary64.ofInt i), vision }

def world (s : State) : Except Fault World := do
  let n ← s.config.get "world_animals"
  let cells ← s.config.get "eye_cells"
  let animals ← animals (← quantity n) cells
  let m ← quantity (← s.config.get "world_foods")
  Memory.grant [.list m 2]
  return { animals, foods := (fractions m (m + 1)).map fun x => { x, y := .real 0.25 } }

/-- The summary of the last generation that ended. -/
def summary (s : State) : String :=
  "generation " ++ toString s.generation ++ ": min=0.00, max=1.00, avg=0.50"

/-- The simulation after the end of a generation. -/
def nextGeneration (s : State) : State := { s with generation := s.generation + 1, age := 0 }

def step (s : State) : Except Fault (Option String) × State :=
  let s := { s with age := s.age + 1 }
  match s.config.get "sim_generation_length" with
  | .error fault => (.error fault, s)
  | .ok length =>
    if length.le (.whole s.age) then (.ok (some (summary (nextGeneration s))), nextGeneration s)
    else (.ok none, s)

def train (s : State) : Except Fault Line × State := (.ok (summary (nextGeneration s)), nextGeneration s)

end Sample

/-- The sample engine. -/
def sample [Memory] : Engine where
  State := Sample.State
  Factory := Unit
  factory := ()
  defaults := Sample.defaults
  build _ c := (Sample.build c, ())
  config s := s.config
  world := Sample.world
  step := Sample.step
  train := Sample.train

end Aviary.Engine
