import Mathlib.Logic.Function.Iterate
import Aviary.Engine.Sample
import Aviary.Proofs.History

/-!
# The accounts of a run

The counters of a session, read off its history.  What a record does to them is said once (`Counts`,
`counts_of_does`).  After any actions the steps and trainings of the simulation are therefore those of the stretch since
it was installed, the flag was turned over once for every pause, and one simulation was built at the start and one for
every reset (`balances_history`).
-/

namespace Aviary

/-- How many generations a training was asked for: none if the number is negative. -/
def Deed.generations : Deed → Nat
  | trained n => n.toNat
  | _ => 0

namespace History

def generations : History → Nat
  | [] => 0
  | record :: records => record.deed.generations + generations records

private theorem generations_concat (records : History) (record : Record) :
    generations (records ++ [record]) = generations records + record.deed.generations := by
  induction records with
  | nil => exact Nat.add_comm _ _
  | cons r records ih =>
    show r.deed.generations + generations (records ++ [record]) = _
    rw [ih, ← Nat.add_assoc]
    rfl

def pauses (records : History) : Nat := records.countP (·.deed = .paused)

def installs (records : History) : Nat := records.countP (·.deed.installs)

end History

namespace Session

variable {E : Engine} {s t : Session E} {record : Record} {records : History} {active : Bool}

/-- What a deed does to the counters of a session. -/
structure Counts (s : Session E) (deed : Deed) (t : Session E) : Prop where
  steps : t.simulation.steps =
    if deed.installs then 0 else s.simulation.steps + if deed = .stepped then 1 else 0
  trains : t.simulation.trains = if deed.installs then 0 else s.simulation.trains + deed.generations
  active : t.active = if deed = .paused then !s.active else s.active
  built : t.built = s.built + if deed.installs then 1 else 0

/-- Whether the counters of a session are those that a history accounts for, if its flag was `active` at the start. -/
structure Balances (active : Bool) (records : History) (s : Session E) : Prop where
  steps : s.simulation.steps = records.stretch.steps
  trains : s.simulation.trains = records.stretch.generations
  active : s.active = (!·)^[records.pauses] active
  built : s.built = 1 + records.installs

/-- A record accounts for what happened to the counters, if no training fails. -/
theorem counts_of_does (htrain : ∀ state, ∃ summary, (E.train state).1 = .ok summary) (h : s.Does record t) :
    s.Counts record.deed t := by
  cases h with
  | refused => exact ⟨rfl, rfl, rfl, rfl⟩
  | @failed _ summaries _ _ hf =>
    -- Only here the trainings that were made are not those that the line asked for.
    obtain ⟨summary, hs⟩ := htrain (s.trained summaries.length).simulation.state
    cases hs.symm.trans hf
  | paused => exact ⟨rfl, rfl, rfl, rfl⟩
  | trained => exact ⟨steps_trained s _, trains_trained s _, active_trained s _, built_trained s _⟩
  | installed => exact ⟨rfl, rfl, rfl, rfl⟩
  | stepped => exact ⟨rfl, rfl, rfl, rfl⟩
  | rested => exact ⟨rfl, rfl, rfl, rfl⟩

private theorem Balances.concat (h : s.Balances active records) (hc : s.Counts record.deed t) :
    t.Balances active (records ++ [record]) where
  steps := by
    rw [hc.steps, h.steps, History.stretch_concat]
    split
    · rfl
    · rw [History.steps_concat]
  trains := by
    rw [hc.trains, h.trains, History.stretch_concat]
    split
    · rfl
    · rw [History.generations_concat]
  active := by
    rw [hc.active, h.active]
    unfold History.pauses
    rw [List.countP_append, List.countP_singleton]
    split <;> simp [Function.iterate_succ_apply', *]
  built := by
    rw [hc.built, h.built]
    unfold History.installs
    rw [List.countP_append, List.countP_singleton, Nat.add_assoc]

private theorem balances_start {config : Config} (h : Session.start E config active = .ok s) :
    s.Balances active [] := by
  obtain ⟨state, factory, -, rfl⟩ := eq_of_start h
  exact ⟨rfl, rfl, rfl, rfl⟩

/-- With an engine whose trainings never fail, the counters of a session are at every time those that its history
accounts for, whatever was typed in and whatever became of its frames. -/
theorem balances_history [Memory] (htrain : ∀ state, ∃ summary, (E.train state).1 = .ok summary) {config : Config}
    (h : Session.start E config active = .ok s) (actions : List Action) :
    (s.after actions).Balances active (s.history actions) := by
  refine history_of_does (P := fun records s => s.Balances active records) ?_ (balances_start h) actions
  intro records s record t hs hd
  exact hs.concat (counts_of_does htrain hd)

/-- A frame that fails after its step counts as a step, and lines that are refused count for nothing. -/
theorem balances_failing_frame :
    let actions : List Action := [.frame, .line "t 2", .line "p", .frame, .line "p 1", .line "r f:world_foods=1.5",
      .line "t -3", .line "r a=b", .line "t", .line "pause", .frame]
    ∃ s, (∀ state, ∃ summary, (Engine.sample.train state).1 = .ok summary) ∧
      Session.start Engine.sample Engine.sample.defaults true = .ok s ∧
      (s.after actions).Balances true (s.history actions) ∧ (s.after actions).simulation.steps = 1 ∧
      (s.after actions).simulation.trains = 1 ∧ (s.after actions).active = true ∧ (s.after actions).built = 2 := by
  intro actions
  have htrain : ∀ state, ∃ summary, (Engine.sample.train state).1 = .ok summary := fun _ => ⟨_, rfl⟩
  have h : Session.start Engine.sample Engine.sample.defaults true =
    .ok ⟨(), ⟨⟨Engine.sample.defaults, 0, 0⟩, 0, 0⟩, 1, true⟩ := rfl
  refine ⟨_, htrain, h, balances_history htrain h actions, ?_, ?_, ?_, ?_⟩ <;> decide +kernel

end Session

end Aviary
