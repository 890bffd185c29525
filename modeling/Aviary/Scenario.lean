/-!
# Scenarios

Command lines known to make the animals do something worth watching, and the introduction that a terminal shows at the
start.
-/

namespace Aviary

/-- A named command line. -/
structure Scenario where
  key : String
  command : String
  description : String
  deriving DecidableEq

namespace Scenario

/-- All scenarios, in the order in which they are listed. -/
def all : List Scenario := [
  { key := "avoid", command := "r i:ga_reverse=1 f:sim_speed_min=0.003", description := "birdies *avoid* food" },
  { key := "zombies", command := "r i:brain_neurons=1", description := "single-neuroned zombies" },
  { key := "bigbirds", command := "r f:food_size=0.05", description := "biiiigie birdies" },
  { key := "narrow", command := "r f:eye_fov_angle=0.45", description := "narrow field of view" }]

/-- The scenario with the given key. -/
def find? (key : String) : Option Scenario := all.find? (·.key == key)

end Scenario

namespace Introduction

/-- What the picture shows and what the animals do. -/
def about : List String := [
  "Each triangle represents a bird; each bird has an *eye*, whose eyesight is drawn around the bird, and a "
    ++ "*brain* that decides where and how fast the bird should be moving.",
  "Each circle represents a food (pizza, so to say), which birds are meant to find and eat.",
  "All birds start flying with randomized brains, and after 2500 turns (around 40 real-time seconds), "
    ++ "birds who managed to eat the most foods are reproduced, and their offspring starts the simulation anew.",
  "Thanks to evolution, every generation gets slightly better at locating the food - almost as if the "
    ++ "birds programmed themselves!",
  "You can affect the simulation by entering commands in the input at the bottom of this panel - for "
    ++ "starters, try executing the `train` command a few times (write `t`, press enter, write `t`, press enter "
    ++ "etc.) - this fast-forwards the simulation, allowing you to see the birds getting smarter by the second."]

/-- The commands in brief. -/
def commands : List String := [
  "  p, pause                  pause / resume",
  "  r, reset [a=N] [f=N] [n=N] [p=N] [i:field=N] [f:field=X]",
  "                            start over with a new config",
  "  t, train [N]              fast-forward N generations"]

/-- The lines shown at the start. -/
def lines : List String :=
  ["Evolution Simulation.", "", "---- About ----", ""] ++ about.flatMap (fun paragraph => [paragraph, ""])
    ++ ["---- Commands ----", ""] ++ commands ++ ["", "---- Funky scenarios ----", ""]
    ++ Scenario.all.flatMap (fun s => ["  * " ++ s.command, "    (" ++ s.description ++ ")", ""]) ++ ["----"]

end Introduction

end Aviary
