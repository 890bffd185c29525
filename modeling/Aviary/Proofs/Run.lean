import Aviary.Proofs.Execution
import Aviary.Redraw

/-!
# Runs of a session

Two things drive a session, in any order: lines that are typed in, and frames.  What one of them can do to the session
is said once (`Moves`, `moves_act`), and whatever these moves keep holds throughout a run (`after_of_moves`).  Engines
whose simulations show the configuration that they were built with are told apart from others (`KeepsConfig`).
-/

namespace Aviary

/-- What drives a session. -/
inductive Action where
  | line (text : String)
  | frame

namespace Session

variable {E : Engine}

/-- What an action can do to a session: a refused line leaves all but the factory, a pause turns the flag over, a
training trains, a reset installs a fresh simulation, and a frame steps unless the session is paused. -/
inductive Moves (s : Session E) : Action → Session E → Prop
  | refused {line : String} {fault : Fault} (h : (s.execute line).fault = some fault) (factory : E.Factory) :
      Moves s (.line line) { s with factory }
  | paused {line : String} (h : Command.ofLine line = .ok .pause) : Moves s (.line line) s.togglePause
  | trained {line : String} {n : Int} (h : Command.ofLine line = .ok (.train n)) (m : Nat) :
      Moves s (.line line) (s.trained m)
  | installed {line : String} {overrides : List String} {config : Config} {state : E.State} {factory : E.Factory}
      (h : Command.ofLine line = .ok (.reset overrides)) (hc : E.defaults.build overrides = .ok config)
      (hb : E.build s.factory config = (.ok state, factory)) :
      Moves s (.line line) { s with factory, simulation := ⟨state, 0, 0⟩, built := s.built + 1 }
  | stepped (h : s.active = true) : Moves s .frame s.step.2
  | rested (h : s.active = false) : Moves s .frame s

private theorem moves_line (s : Session E) (line : String) : s.Moves (.line line) (s.execute line).session := by
  have key := executes_execute s line
  generalize hr : s.execute line = reply at key
  cases key with
  | unread => exact .refused (by rw [hr]) s.factory
  | badArgument => exact .refused (by rw [hr]) s.factory
  | notBuilt => exact .refused (by rw [hr]) _
  | paused h => exact .paused h
  | installed h hd hb => exact .installed h hd hb
  | trained h ht =>
    cases ht with
    | all => exact .trained h _
    | stopped => exact .trained h _

theorem eq_of_start {config : Config} {active : Bool} {s : Session E} (h : start E config active = .ok s) :
    ∃ state factory, E.build E.factory config = (.ok state, factory) ∧ s = ⟨factory, ⟨state, 0, 0⟩, 1, active⟩ := by
  unfold start at h
  split at h
  · cases h
  · rename_i state factory hb
    exact ⟨state, factory, hb, (Except.ok.inj h).symm⟩

variable [Memory]

/-- The session after a line was answered or a frame has passed. -/
def act (s : Session E) : Action → Session E
  | .line text => (s.answer text).1
  | .frame => s.redraw.session

/-- The session after some actions, the first of the list first. -/
def after (s : Session E) (actions : List Action) : Session E := actions.foldl act s

theorem moves_act (s : Session E) (action : Action) : s.Moves action (s.act action) := by
  cases action with
  | line text => exact moves_line s text
  | frame =>
    show s.Moves .frame s.redraw.session
    unfold redraw
    cases ha : s.active with
    | true =>
      rw [if_pos rfl]
      split
      · rename_i s' h
        obtain rfl : s.step.2 = s' := by rw [h]
        exact .stepped ha
      · rename_i s' h
        obtain rfl : s.step.2 = s' := by rw [h]
        exact .stepped ha
    | false => exact .rested ha

/-- What holds at the start and is kept by every move holds after any actions. -/
theorem after_of_moves {P : Session E → Prop} (hmove : ∀ s t action, P s → s.Moves action t → P t) {s : Session E}
    (h : P s) (actions : List Action) : P (s.after actions) := by
  induction actions generalizing s with
  | nil => exact h
  | cons action actions ih => exact ih (hmove s _ action h (moves_act s action))

end Session

/-- Whether the simulations of an engine show the configuration that they were built with. -/
structure Engine.KeepsConfig (E : Engine) : Prop where
  build : ∀ factory config state factory', E.build factory config = (.ok state, factory') → E.config state = config
  step : ∀ state, E.config (E.step state).2 = E.config state
  train : ∀ state, E.config (E.train state).2 = E.config state

theorem Session.config_trained {E : Engine} (hE : E.KeepsConfig) (s : Session E) (n : Nat) :
    (s.trained n).config = s.config := by
  induction n generalizing s with
  | zero => rfl
  | succ n ih => exact (ih s.train.2).trans (hE.train s.simulation.state)

end Aviary
