import Aviary.Proofs.Execution

/-!
# Refused lines

A line that ends in a fault leaves the session as it was, unless it was the simulation that failed, in a training that
the line asked for; then the simulation is the same, trained up to and including the training that failed.  Nothing is
built in either case.  A reset that goes through installs one fresh simulation.  Both are `execute_atomic`.
-/

namespace Aviary.Session

variable {E : Engine}

/-- Whether the simulation of `t` is the one of `s`, trained since or not.  A simulation is installed when it is built,
so it is the same one as long as none is built. -/
def Keeps (s t : Session E) : Prop :=
  t.built = s.built ∧ ∃ n, t.simulation = (s.trained n).simulation

/-- Whether `line` asks for trainings of `s` and the first of them that fails does so with `fault`. -/
def FailsInTraining (s : Session E) (line : String) (fault : Fault) : Prop :=
  ∃ (n : Int) (summaries : List Line), Command.ofLine line = .ok (.train n) ∧ (summaries.length : Int) < n ∧
    s.Yields summaries ∧ s.outcome summaries.length = .error fault

/-- Whether `t` is `s` with one more simulation, built from `config` and installed. -/
def Installs (s : Session E) (config : Config) (t : Session E) : Prop :=
  ∃ state, (E.build s.factory config).1 = .ok state ∧ t.simulation = ⟨state, 0, 0⟩ ∧ t.built = s.built + 1 ∧
    t.active = s.active

variable {s : Session E} {line : String} {reply : Reply E}

private theorem keeps_of_executes {fault : Fault} (key : s.Executes line reply) (h : reply.fault = some fault) :
    Keeps s reply.session ∧ reply.session.active = s.active ∧
      (¬ s.FailsInTraining line fault →
        reply.printed = [] ∧ reply.session.simulation = s.simulation ∧ reply.session.built = s.built) := by
  cases key with
  | unread => exact ⟨⟨rfl, 0, rfl⟩, rfl, fun _ => ⟨rfl, rfl, rfl⟩⟩
  | badArgument => exact ⟨⟨rfl, 0, rfl⟩, rfl, fun _ => ⟨rfl, rfl, rfl⟩⟩
  | notBuilt => exact ⟨⟨rfl, 0, rfl⟩, rfl, fun _ => ⟨rfl, rfl, rfl⟩⟩
  | paused => cases h
  | installed => cases h
  | @trained n _ hc ht =>
    cases ht with
    | all => cases h
    | @stopped summaries fault' hy hn hf =>
      obtain rfl : fault' = fault := Option.some.inj h
      have hfails : s.FailsInTraining line fault' := ⟨n, summaries, hc, by omega, hy, hf⟩
      exact ⟨⟨built_trained s _, _, rfl⟩, active_trained s _, fun hno => absurd hfails hno⟩

private theorem installs_of_executes {overrides : List String} (key : s.Executes line reply)
    (hc : Command.ofLine line = .ok (.reset overrides)) (h : reply.fault = none) :
    reply.printed = [] ∧ ∃ config, E.defaults.build overrides = .ok config ∧ Installs s config reply.session := by
  cases key with
  | unread => cases h
  | badArgument => cases h
  | notBuilt => cases h
  | paused h' =>
    rw [hc] at h'
    cases h'
  | trained h' =>
    rw [hc] at h'
    cases h'
  | @installed overrides' config state factory h' hd hb =>
    rw [hc] at h'
    obtain rfl : overrides = overrides' := by simpa using h'
    exact ⟨rfl, config, hd, state, by rw [hb], rfl, rfl, rfl⟩

/-- A line that ends in a fault leaves the simulation that is installed and the flag, and all of the session but the
factory unless the simulation failed in training; a reset without a fault installs one fresh simulation. -/
theorem execute_atomic (s : Session E) (line : String) :
    (∀ fault, (s.execute line).fault = some fault →
      Keeps s (s.execute line).session ∧ (s.execute line).session.active = s.active ∧
      (¬ s.FailsInTraining line fault →
        (s.execute line).printed = [] ∧ (s.execute line).session.simulation = s.simulation ∧
          (s.execute line).session.built = s.built)) ∧
    (∀ overrides, Command.ofLine line = .ok (.reset overrides) → (s.execute line).fault = none →
      (s.execute line).printed = [] ∧
        ∃ config, E.defaults.build overrides = .ok config ∧ Installs s config (s.execute line).session) := by
  have key := executes_execute s line
  exact ⟨fun fault h => keeps_of_executes key h, fun overrides hc h => installs_of_executes key hc h⟩

end Aviary.Session
