import Aviary.Proofs.Grammar
import Aviary.Proofs.History

/-!
# Starting over

Sessions that differ at most in the number of simulations they have built cannot be told apart: whatever is done to
both, they stay alike (`Alike.act`) and have the same history (`Alike.history_eq`).  A reset leaves no more than that
of the past of a session with the sample engine, and whether it is refused does not depend on the past either
(`history_after_reset`).
-/

namespace Aviary

variable {E : Engine}

/-- Whether two sessions are the same but for the number of simulations that were built.  Replies and frames are alike
if their sessions are, and the rest is the same. -/
structure Session.Alike (s t : Session E) : Prop where
  factory : s.factory = t.factory
  simulation : s.simulation = t.simulation
  active : s.active = t.active

structure Reply.Alike (r q : Reply E) : Prop where
  session : r.session.Alike q.session
  printed : r.printed = q.printed
  fault : r.fault = q.fault

structure Frame.Alike (f g : Frame E) : Prop where
  session : f.session.Alike g.session
  printed : f.printed = g.printed
  scene : f.scene = g.scene

namespace Session

variable {s t : Session E}

private theorem Alike.eq (h : s.Alike t) : t = { s with built := t.built } := by
  obtain ⟨hfactory, hsimulation, hactive⟩ := h
  rw [hfactory, hsimulation, hactive]

private theorem Alike.train (h : s.Alike t) : s.train.1 = t.train.1 ∧ s.train.2.Alike t.train.2 := by
  rw [h.eq]
  exact ⟨rfl, rfl, rfl, rfl⟩

private theorem Alike.step (h : s.Alike t) : s.step.1 = t.step.1 ∧ s.step.2.Alike t.step.2 := by
  rw [h.eq]
  exact ⟨rfl, rfl, rfl, rfl⟩

private theorem Alike.trainTimes (h : s.Alike t) (n : Nat) : (s.trainTimes n).Alike (t.trainTimes n) := by
  induction n generalizing s t with
  | zero => exact ⟨h, rfl, rfl⟩
  | succ n ih =>
    obtain ⟨hresult, htrain⟩ := h.train
    unfold Session.trainTimes
    generalize s.train = x, t.train = y at hresult htrain ⊢
    obtain ⟨result, s'⟩ := x
    obtain ⟨result', t'⟩ := y
    obtain rfl : result = result' := hresult
    cases result with
    | error fault => exact ⟨htrain, rfl, rfl⟩
    | ok summary =>
      by_cases hn : n = 0
      · simp only [hn, if_true]
        exact ⟨htrain, rfl, rfl⟩
      · obtain ⟨hsession, hprinted, hfault⟩ := ih htrain
        simp only [hn, if_false]
        exact ⟨hsession, by rw [hprinted], hfault⟩

private theorem Alike.resetWith (h : s.Alike t) (overrides : List String) :
    (s.resetWith overrides).Alike (t.resetWith overrides) := by
  unfold Session.resetWith
  cases E.defaults.build overrides with
  | error fault => exact ⟨h, rfl, rfl⟩
  | ok config =>
    -- Only the factory has a say in what is built, and each session counts on from its own number.
    simp only [reset, h.factory]
    rcases E.build t.factory config with ⟨cause | state, factory⟩
    · exact ⟨⟨rfl, h.simulation, h.active⟩, rfl, rfl⟩
    · exact ⟨⟨rfl, rfl, h.active⟩, rfl, rfl⟩

private theorem Alike.execute (h : s.Alike t) (line : String) : (s.execute line).Alike (t.execute line) := by
  unfold Session.execute
  cases Command.ofLine line with
  | error fault => exact ⟨h, rfl, rfl⟩
  | ok command =>
    cases command with
    | pause => exact ⟨⟨h.factory, h.simulation, congrArg (!·) h.active⟩, rfl, rfl⟩
    | reset overrides => exact h.resetWith overrides
    | train n => exact h.trainTimes n.toNat

variable [Memory]

private theorem Alike.scene (h : s.Alike t) : s.scene = t.scene := by
  rw [h.eq]
  rfl

private theorem Alike.redraw (h : s.Alike t) : s.redraw.Alike t.redraw := by
  unfold Session.redraw
  rw [h.active]
  cases t.active with
  | true =>
    obtain ⟨hresult, hstep⟩ := h.step
    generalize s.step = x, t.step = y at hresult hstep ⊢
    obtain ⟨result, s'⟩ := x
    obtain ⟨result', t'⟩ := y
    obtain rfl : result = result' := hresult
    cases result with
    | error fault => exact ⟨hstep, rfl, rfl⟩
    | ok summary? => exact ⟨hstep, rfl, hstep.scene⟩
  | false => exact ⟨h, rfl, h.scene⟩

/-- What is done to sessions that are alike leaves them alike. -/
theorem Alike.act (h : s.Alike t) (action : Action) : (s.act action).Alike (t.act action) := by
  cases action with
  | line text => exact (h.execute text).session
  | frame => exact h.redraw.session

/-- What is done to sessions that are alike is accepted or refused, and prints and paints, in both in the same way. -/
private theorem Alike.record_eq (h : s.Alike t) (action : Action) : s.record action = t.record action := by
  cases action with
  | line text =>
    have key := h.execute text
    simp only [record, deed, answer, key.printed, key.fault]
  | frame =>
    have key := h.redraw
    simp only [record, deed, Frame.picture, h.active, key.printed, key.scene]

theorem Alike.history_eq (h : s.Alike t) (actions : List Action) : s.history actions = t.history actions := by
  induction actions generalizing s t with
  | nil => rfl
  | cons action actions ih =>
    unfold history
    rw [h.record_eq action, ih (h.act action)]

end Session

namespace Engine.Sample

open Command

section Reset

variable [Memory]

/-- Whether a simulation is at the beginning of its first generation and was never asked anything. -/
structure Fresh (s : Simulation Engine.sample) : Prop where
  generation : s.state.generation = 0
  age : s.state.age = 0
  steps : s.steps = 0
  trains : s.trains = 0

/-- The session with a simulation that was just built from `c`. -/
def restarted (c : Config) (s : Session Engine.sample) : Session Engine.sample :=
  { s with simulation := ⟨⟨c, 0, 0⟩, 0, 0⟩, built := s.built + 1 }

/-- Whether a reset is refused, and what it installs, is the same in all sessions. -/
private theorem resetWith_cases (args : List String) :
    (∃ fault, ∀ s : Session Engine.sample, s.resetWith args = ⟨s, [], some fault⟩) ∨
      (∃ c, ∀ s : Session Engine.sample, s.resetWith args = ⟨restarted c s, [], none⟩) := by
  cases hb : defaults.build args with
  | error fault => exact .inl ⟨fault, fun s => resetWith_of_error s hb⟩
  | ok c =>
    cases hc : check c with
    | error cause => exact .inl ⟨.construction cause, fun s => resetWith_of_check_error s hb hc⟩
    | ok => exact .inr ⟨c, fun s => resetWith_of_check s hb hc⟩

/-- A line whose first word is the name of a reset is a reset with the other words, if it is read at all. -/
private theorem execute_cases {line name : String} {args : List String} (hw : tokens line = name :: args)
    (hr : IsReset name) :
    (∃ fault, ∀ s : Session Engine.sample, s.execute line = ⟨s, [], some fault⟩) ∨
      (∃ c, ∀ s : Session Engine.sample, s.execute line = ⟨restarted c s, [], none⟩) := by
  unfold Session.execute
  by_cases hb : Bracketed line
  · rw [ofLine_of_bracketed hb]
    exact .inl ⟨.squareBracket, fun _ => rfl⟩
  · rw [ofLine_of_not_bracketed hb, hw, ofWords_reset hr]
    exact resetWith_cases args

private theorem alike_restarted {s t : Session Engine.sample} (h : s.active = t.active) (c : Config) :
    (restarted c s).Alike (restarted c t) :=
  ⟨rfl, rfl, h⟩

/-- A reset erases the past of a session: it is refused in any two sessions or in none, and with the same fault.  If it
is not, both get a fresh simulation of one configuration and keep their flags, and if the flags agree, whatever is typed
in and whatever frames pass from then on is accepted or refused, prints and paints in both in the same way. -/
theorem history_after_reset (s t : Session Engine.sample) {line name : String} {args : List String}
    (hw : tokens line = name :: args) (hr : IsReset name) :
    (s.execute line).fault = (t.execute line).fault ∧
      ((s.execute line).fault = none →
        (s.execute line).session.config = (t.execute line).session.config ∧
        Fresh (s.execute line).session.simulation ∧ Fresh (t.execute line).session.simulation ∧
        (s.execute line).session.active = s.active ∧ (t.execute line).session.active = t.active ∧
        (s.active = t.active → ∀ actions,
          (s.execute line).session.history actions = (t.execute line).session.history actions)) := by
  rcases execute_cases hw hr with ⟨fault, h⟩ | ⟨c, h⟩
  · rw [h s, h t]
    exact ⟨rfl, nofun⟩
  · rw [h s, h t]
    refine ⟨rfl, fun _ => ⟨rfl, ⟨rfl, rfl, rfl, rfl⟩, ⟨rfl, rfl, rfl, rfl⟩, rfl, rfl, fun ha actions => ?_⟩⟩
    exact (alike_restarted ha c).history_eq actions

end Reset

/-- Two sessions with different pasts, both paused, that a reset makes the same. -/
theorem history_after_reset_paused :
    ∃ s₀ t₀ : Session Engine.sample, Session.start Engine.sample defaults true = .ok s₀ ∧
      Session.start Engine.sample defaults false = .ok t₀ ∧
      let s := s₀.after [.frame, .line "t 2", .line "p"]
      let t := t₀.after [.line "r f:world_foods=1.5", .line "p x"]
      tokens "reset  animals=2 f:food_size=.5" = "reset" :: ["animals=2", "f:food_size=.5"] ∧ IsReset "reset" ∧
      (s.execute "reset  animals=2 f:food_size=.5").fault = none ∧ s.active = t.active ∧
      s.simulation.state.generation ≠ t.simulation.state.generation ∧
      ∀ actions, (s.execute "reset  animals=2 f:food_size=.5").session.history actions =
        (t.execute "reset  animals=2 f:food_size=.5").session.history actions := by
  have hw : tokens "reset  animals=2 f:food_size=.5" = "reset" :: ["animals=2", "f:food_size=.5"] := by decide +kernel
  have hr : IsReset "reset" := .inr rfl
  refine ⟨_, _, rfl, rfl, hw, hr, by decide +kernel, by decide +kernel, by decide +kernel, ?_⟩
  refine ((history_after_reset _ _ hw hr).2 ?_).2.2.2.2.2 ?_
  · decide +kernel
  · decide +kernel

end Engine.Sample

end Aviary
