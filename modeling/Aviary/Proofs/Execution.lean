import Aviary.Proofs.Training

/-!
# What a line does

A line is not read, or it is a command, and what comes of it is said once for every command (`Executes`,
`executes_execute`): a pause turns the flag over, a training trains, and a reset ends in the fault of an argument, in
that of the engine, or in a fresh simulation.
-/

namespace Aviary.Session

variable {E : Engine}

/-- What can come of a line. -/
inductive Executes (s : Session E) (line : String) : Reply E → Prop
  | unread {fault : Fault} (h : Command.ofLine line = .error fault) : Executes s line ⟨s, [], some fault⟩
  | paused (h : Command.ofLine line = .ok .pause) : Executes s line ⟨s.togglePause, [], none⟩
  | trained {n : Int} {reply : Reply E} (h : Command.ofLine line = .ok (.train n)) (ht : Trains s n.toNat reply) :
      Executes s line reply
  | badArgument {overrides : List String} {fault : Fault} (h : Command.ofLine line = .ok (.reset overrides))
      (hd : E.defaults.build overrides = .error fault) : Executes s line ⟨s, [], some fault⟩
  | notBuilt {overrides : List String} {config : Config} {cause : Fault} {factory : E.Factory}
      (h : Command.ofLine line = .ok (.reset overrides)) (hd : E.defaults.build overrides = .ok config)
      (hb : E.build s.factory config = (.error cause, factory)) :
      Executes s line ⟨{ s with factory }, [], some (.construction cause)⟩
  | installed {overrides : List String} {config : Config} {state : E.State} {factory : E.Factory}
      (h : Command.ofLine line = .ok (.reset overrides)) (hd : E.defaults.build overrides = .ok config)
      (hb : E.build s.factory config = (.ok state, factory)) :
      Executes s line ⟨{ s with factory, simulation := ⟨state, 0, 0⟩, built := s.built + 1 }, [], none⟩

private theorem executes_resetWith (s : Session E) {line : String} {overrides : List String}
    (h : Command.ofLine line = .ok (.reset overrides)) : s.Executes line (s.resetWith overrides) := by
  unfold resetWith
  cases hd : E.defaults.build overrides with
  | error fault => exact .badArgument h hd
  | ok config =>
    rcases hb : E.build s.factory config with ⟨cause | state, factory⟩
    · simp only [reset, hb]
      exact .notBuilt h hd hb
    · simp only [reset, hb]
      exact .installed h hd hb

theorem executes_execute (s : Session E) (line : String) : s.Executes line (s.execute line) := by
  unfold execute
  cases h : Command.ofLine line with
  | error fault => exact .unread h
  | ok command =>
    cases command with
    | pause => exact .paused h
    | reset overrides => exact executes_resetWith s h
    | train n => exact .trained h (trains_trainTimes s n.toNat)

end Aviary.Session
