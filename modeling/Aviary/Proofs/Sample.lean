import Aviary.Engine.Sample
import Aviary.Proofs.Override
import Aviary.Proofs.Run

/-!
# The sample engine

What the sample engine refuses and what it never fails at.  It judges a configuration by four of its numbers
(`Measures`, `Unfit`), which every configuration with the fields of its defaults has (`exists_measures`).  A refused
configuration leaves the session as it is (`resetWith_of_check_error`), no training and no step fails
(`fault_trainTimes`, `exists_step`), and a session that starts with the defaults only ever has a configuration that
was accepted (`accepted_after`).
-/

namespace Aviary.Engine.Sample

open Config

/-- The four numbers by which a configuration is judged. -/
structure Measures (c : Config) (cells animals foods size : Number) : Prop where
  cells : c.get? "eye_cells" = some cells
  animals : c.get? "world_animals" = some animals
  foods : c.get? "world_foods" = some foods
  size : c.get? "food_size" = some size

/-- Why a configuration is refused: there are no eye cells, less than no animals or food, or food of no size. -/
inductive Unfit (c : Config) : Fault → Prop
  | cells {cells animals foods size : Number} (h : Measures c cells animals foods size)
      (hc : cells.lt (.whole 1) = true) : Unfit c .noEyeCells
  | population {cells animals foods size : Number} (h : Measures c cells animals foods size)
      (hc : cells.lt (.whole 1) = false) (hp : animals.lt (.whole 0) = true ∨ foods.lt (.whole 0) = true) :
      Unfit c .negativePopulation
  | size {cells animals foods size : Number} (h : Measures c cells animals foods size)
      (hc : cells.lt (.whole 1) = false) (ha : animals.lt (.whole 0) = false) (hf : foods.lt (.whole 0) = false)
      (hs : size.le (.whole 0) = true) : Unfit c .foodSizeNotPositive

private theorem Measures.unique {c : Config} {k n m z k' n' m' z' : Number} (h : Measures c k n m z)
    (h' : Measures c k' n' m' z') : k = k' ∧ n = n' ∧ m = m' ∧ z = z' :=
  ⟨Option.some.inj (h.cells.symm.trans h'.cells), Option.some.inj (h.animals.symm.trans h'.animals),
    Option.some.inj (h.foods.symm.trans h'.foods), Option.some.inj (h.size.symm.trans h'.size)⟩

/-- The fields that the engine and its pictures read. -/
private theorem mem_names_defaults :
    ∀ name ∈ ["eye_cells", "world_animals", "world_foods", "food_size", "eye_fov_angle",
    "sim_generation_length"], name ∈ defaults.names := by
  decide +kernel

theorem exists_get? {c : Config} (h : c.names = defaults.names) (name : String)
    (hn : name ∈ ["eye_cells", "world_animals", "world_foods", "food_size", "eye_fov_angle", "sim_generation_length"]) :
    ∃ value, c.get? name = some value := by
  refine exists_get?_of_mem ?_
  rw [h]
  exact mem_names_defaults name hn

/-- A configuration with the fields of the defaults has the numbers by which it is judged. -/
theorem exists_measures {c : Config} (h : c.names = defaults.names) :
    ∃ cells animals foods size, Measures c cells animals foods size := by
  obtain ⟨k, hk⟩ := exists_get? h "eye_cells" (by simp)
  obtain ⟨n, hn⟩ := exists_get? h "world_animals" (by simp)
  obtain ⟨m, hm⟩ := exists_get? h "world_foods" (by simp)
  obtain ⟨z, hz⟩ := exists_get? h "food_size" (by simp)
  exact ⟨k, n, m, z, hk, hn, hm, hz⟩

private theorem check_eq {c : Config} {k n m z : Number} (h : Measures c k n m z) :
    check c = if k.lt (.whole 1) then .error .noEyeCells
      else if n.lt (.whole 0) || m.lt (.whole 0) then .error .negativePopulation
      else if z.le (.whole 0) then .error .foodSizeNotPositive else .ok () := by
  unfold check
  -- The tests are made in this order, and the second one is made for the animals and then for the food.
  rw [get_of_get? h.cells, get_of_get? h.animals, get_of_get? h.foods, get_of_get? h.size]
  cases hk : k.lt (.whole 1) <;> cases hn : n.lt (.whole 0) <;> cases hm : m.lt (.whole 0) <;>
    cases hz : z.le (.whole 0) <;>
    simp [bind, Except.bind, throw, throwThe, MonadExceptOf.throw, pure, Except.pure, hk, hn, hm, hz]

/-- A configuration is refused for the reason why it is unfit, and for no other. -/
theorem check_eq_error_iff {c : Config} (h : c.names = defaults.names) {cause : Fault} :
    check c = .error cause ↔ Unfit c cause := by
  obtain ⟨k, n, m, z, hm⟩ := exists_measures h
  rw [check_eq hm]
  constructor
  · intro hc
    split at hc
    · rename_i hk
      obtain rfl := Except.error.inj hc
      exact .cells hm hk
    · rename_i hk
      split at hc
      · rename_i hp
        obtain rfl := Except.error.inj hc
        exact .population hm (by simpa using hk) (by simpa using hp)
      · rename_i hp
        simp only [Bool.or_eq_true, not_or, Bool.not_eq_true] at hp
        split at hc
        · rename_i hz
          obtain rfl := Except.error.inj hc
          exact .size hm (by simpa using hk) hp.1 hp.2 hz
        · cases hc
  · intro hu
    cases hu with
    | cells h' hc =>
      obtain ⟨rfl, -, -, -⟩ := hm.unique h'
      simp [hc]
    | population h' hc hp =>
      obtain ⟨rfl, rfl, rfl, -⟩ := hm.unique h'
      simp [hc, hp]
    | size h' hc ha hf hs =>
      obtain ⟨rfl, rfl, rfl, rfl⟩ := hm.unique h'
      simp [hc, ha, hf, hs]

/-- A configuration is accepted if nothing makes it unfit. -/
theorem check_eq_ok_iff {c : Config} (h : c.names = defaults.names) :
    check c = .ok () ↔ ∀ cause, ¬ Unfit c cause := by
  constructor
  · intro hc cause hu
    rw [(check_eq_error_iff h).2 hu] at hc
    cases hc
  · intro hu
    cases hc : check c with
    | error cause => exact absurd ((check_eq_error_iff h).1 hc) (hu cause)
    | ok => rfl

/-- A simulation that was just built is in its first generation, at the beginning. -/
theorem eq_of_build {c : Config} {state : State} (h : build c = .ok state) : state = ⟨c, 0, 0⟩ := by
  obtain ⟨_, -, hs⟩ := Fault.bind_eq_ok_iff.mp h
  exact (Except.ok.inj hs).symm

/-- Whether a configuration comes from overrides of the defaults and is accepted. -/
def Accepted (c : Config) : Prop := ∃ args, defaults.build args = .ok c ∧ check c = .ok ()

theorem Accepted.names {c : Config} (h : Accepted c) : c.names = defaults.names := by
  obtain ⟨args, hc, -⟩ := h
  exact names_build hc

/-- An accepted configuration has at least one eye cell, so far as that can be said of its number. -/
theorem Accepted.lt_cells {c : Config} {cells animals foods size : Number} (h : Accepted c)
    (hm : Measures c cells animals foods size) : cells.lt (.whole 1) = false := by
  obtain ⟨args, -, hc⟩ := id h
  cases hk : cells.lt (.whole 1) with
  | false => rfl
  | true => exact absurd (.cells hm hk) ((check_eq_ok_iff h.names).mp hc .noEyeCells)

private theorem accepted_of_build {c : Config} {args : List String} {state : State} (h : defaults.build args = .ok c)
    (hb : build c = .ok state) : Accepted state.config := by
  obtain ⟨u, hu, hs⟩ := Fault.bind_eq_ok_iff.mp hb
  obtain rfl := Except.ok.inj hs
  exact ⟨args, h, hu⟩

variable [Memory]

theorem keepsConfig : Engine.sample.KeepsConfig where
  build _ _ _ _ h := by
    rw [eq_of_build (congrArg Prod.fst h)]
    rfl
  step s := by
    show (step s).2.config = s.config
    simp only [step]
    split
    · rfl
    · split <;> rfl
  train _ := rfl

/-! ### Resets and trainings of a session -/

variable (s : Session Engine.sample)

theorem resetWith_of_error {args : List String} {fault : Fault} (h : defaults.build args = .error fault) :
    s.resetWith args = ⟨s, [], some fault⟩ := by
  have h' : Engine.sample.defaults.build args = .error fault := h
  simp only [Session.resetWith, h']

theorem resetWith_of_check_error {args : List String} {c : Config} {cause : Fault}
    (h : defaults.build args = .ok c) (hc : check c = .error cause) :
    s.resetWith args = ⟨s, [], some (.construction cause)⟩ := by
  have h' : Engine.sample.defaults.build args = .ok c := h
  have hb : Engine.sample.build s.factory c = (.error cause, s.factory) := by
    show (build c, ()) = _
    unfold build
    rw [hc]
    rfl
  simp only [Session.resetWith, h', Session.reset, hb]

theorem resetWith_of_check {args : List String} {c : Config} (h : defaults.build args = .ok c)
    (hc : check c = .ok ()) :
    s.resetWith args = ⟨{ s with simulation := ⟨⟨c, 0, 0⟩, 0, 0⟩, built := s.built + 1 }, [], none⟩ := by
  have h' : Engine.sample.defaults.build args = .ok c := h
  have hb : Engine.sample.build s.factory c = (.ok ⟨c, 0, 0⟩, s.factory) := by
    show (build c, ()) = _
    unfold build
    rw [hc]
    rfl
  simp only [Session.resetWith, h', Session.reset, hb]

theorem fault_trainTimes (n : Nat) : (s.trainTimes n).fault = none := by
  have key := s.trains_trainTimes n
  generalize s.trainTimes n = reply at key
  cases key with
  | all => rfl
  | stopped _ _ hf => cases hf

/-! ### Runs of a session -/

variable {s}

/-- A simulation whose configuration has the fields of the defaults can always step, and keeps its configuration. -/
theorem exists_step (h : s.config.names = defaults.names) :
    ∃ summary? t, s.step = (.ok summary?, t) ∧ t.config = s.config := by
  obtain ⟨length, hl⟩ := exists_get? h "sim_generation_length" (by simp)
  have hget : s.simulation.state.config.get "sim_generation_length" = .ok length := get_of_get? hl
  have hstep : ∃ summary? state, step s.simulation.state = (.ok summary?, state) ∧ state.config = s.config := by
    unfold step
    simp only [hget]
    split <;> exact ⟨_, _, rfl, rfl⟩
  obtain ⟨summary?, state, hs, hconfig⟩ := hstep
  refine ⟨summary?, { s with simulation := ⟨state, s.simulation.steps + 1, s.simulation.trains⟩ }, ?_, hconfig⟩
  have hs' : Engine.sample.step s.simulation.state = (.ok summary?, state) := hs
  simp only [Session.step, hs']

/-- Only accepted configurations are ever installed. -/
private theorem accepted_of_moves {t : Session Engine.sample} {action : Action} (h : Accepted s.config)
    (hm : s.Moves action t) : Accepted t.config := by
  cases hm with
  | refused => exact h
  | paused => exact h
  | trained _ m =>
    rw [Session.config_trained keepsConfig]
    exact h
  | installed _ hc hb => exact accepted_of_build hc (congrArg Prod.fst hb)
  | stepped =>
    obtain ⟨summary?, t, ht, hconfig⟩ := exists_step h.names
    rw [ht, hconfig]
    exact h
  | rested => exact h

/-- The configuration of a session that starts with the defaults is accepted at every time. -/
theorem accepted_after {active : Bool} (h : Session.start Engine.sample defaults active = .ok s)
    (actions : List Action) : Accepted (s.after actions).config := by
  refine Session.after_of_moves (P := fun t => Accepted t.config) (fun s t action => accepted_of_moves) ?_ actions
  unfold Session.start at h
  split at h
  · cases h
  · rename_i state factory hb
    obtain rfl := Except.ok.inj h
    exact accepted_of_build (show defaults.build [] = .ok defaults from rfl) (congrArg Prod.fst hb)

end Aviary.Engine.Sample
