import Aviary.Console

/-!
# Repeated training

A session that is trained again and again, whatever each training gives, and what `trainTimes` makes of it.  The key
facts: training changes nothing of a session but its simulation (`active_trained`, `built_trained`), and
`trainTimes n` either trains `n` times and prints the summaries with an empty line between two of them, or ends with
the first training that fails (`trains_trainTimes`).  Which of the two depends on what the trainings give
(`Trains.eq_of_yields`, `Trains.eq_of_error`).
-/

namespace Aviary.Session

variable {E : Engine}

/-- The session after its simulation was trained `n` times, whatever came of it. -/
def trained (s : Session E) : Nat → Session E
  | 0 => s
  | n + 1 => s.train.2.trained n

/-- What the next training gives after `n` others. -/
def outcome (s : Session E) (n : Nat) : Except Fault Line := (s.trained n).train.1

theorem active_trained (s : Session E) (n : Nat) : (s.trained n).active = s.active := by
  induction n generalizing s with
  | zero => rfl
  | succ n ih => exact ih s.train.2

theorem built_trained (s : Session E) (n : Nat) : (s.trained n).built = s.built := by
  induction n generalizing s with
  | zero => rfl
  | succ n ih => exact ih s.train.2

theorem steps_trained (s : Session E) (n : Nat) : (s.trained n).simulation.steps = s.simulation.steps := by
  induction n generalizing s with
  | zero => rfl
  | succ n ih => exact ih s.train.2

theorem trains_trained (s : Session E) (n : Nat) : (s.trained n).simulation.trains = s.simulation.trains + n := by
  induction n generalizing s with
  | zero => rfl
  | succ n ih =>
    rw [trained, ih]
    show s.simulation.trains + 1 + n = _
    omega

private theorem trained_trained (s : Session E) (m n : Nat) : (s.trained m).trained n = s.trained (m + n) := by
  induction m generalizing s with
  | zero => rw [Nat.zero_add]; rfl
  | succ m ih =>
    rw [Nat.add_right_comm]
    exact ih s.train.2

theorem outcome_trained (s : Session E) (m n : Nat) : (s.trained m).outcome n = s.outcome (m + n) := by
  unfold outcome
  rw [trained_trained]

/-- The first trainings of `s` succeed with the given summaries. -/
def Yields (s : Session E) (summaries : List Line) : Prop :=
  ∀ i summary, summaries[i]? = some summary → s.outcome i = .ok summary

theorem Yields.nil (s : Session E) : s.Yields [] := by
  intro i summary h
  simp at h

theorem Yields.cons {s : Session E} {summary : Line} {summaries : List Line} (hs : s.train.1 = .ok summary)
    (h : s.train.2.Yields summaries) : s.Yields (summary :: summaries) := by
  intro i t ht
  cases i with
  | zero =>
    rw [List.getElem?_cons_zero, Option.some.injEq] at ht
    rw [← ht]
    exact hs
  | succ i => exact h i t (by simpa using ht)

/-- A training that fails is not one of the first that succeed. -/
private theorem Yields.length_le {s : Session E} {summaries : List Line} (h : s.Yields summaries) {n : Nat}
    {fault : Fault}
    (hf : s.outcome n = .error fault) : summaries.length ≤ n := by
  refine Nat.le_of_not_lt fun hlt => ?_
  have hok := h n _ (List.getElem?_eq_getElem hlt)
  rw [hf] at hok
  cases hok

private theorem Yields.unique {s : Session E} {xs ys : List Line} (hx : s.Yields xs) (hy : s.Yields ys)
    (hlen : xs.length = ys.length) : xs = ys := by
  refine List.ext_getElem hlen fun i hi hi' => ?_
  have hxi := hx i _ (List.getElem?_eq_getElem hi)
  have hyi := hy i _ (List.getElem?_eq_getElem hi')
  exact Except.ok.inj (hxi.symm.trans hyi)

/-- What `n` trainings of `s` come to: all of them succeed, or one of them is the first that fails.  The empty line
between two summaries is printed before the second training is tried. -/
inductive Trains (s : Session E) (n : Nat) : Reply E → Prop
  | all {summaries : List Line} (h : s.Yields summaries) (hn : summaries.length = n) :
      Trains s n ⟨s.trained n, summaries.intersperse (some ""), none⟩
  | stopped {summaries : List Line} {fault : Fault} (h : s.Yields summaries) (hn : summaries.length < n)
      (hf : s.outcome summaries.length = .error fault) :
      Trains s n ⟨s.trained (summaries.length + 1), summaries.flatMap ([·, some ""]), some fault⟩

theorem trains_trainTimes (s : Session E) (n : Nat) : Trains s n (s.trainTimes n) := by
  induction n generalizing s with
  | zero => exact .all (Yields.nil s) rfl
  | succ n ih =>
    unfold trainTimes
    split
    · rename_i fault s' h
      obtain rfl : s.train.2 = s' := by rw [h]
      exact .stopped (Yields.nil s) (Nat.succ_pos n) (show s.train.1 = .error fault by rw [h])
    · rename_i summary s' h
      obtain rfl : s.train.2 = s' := by rw [h]
      have hs : s.train.1 = .ok summary := by rw [h]
      split
      · subst n
        exact .all (Yields.cons hs (Yields.nil _)) rfl
      · have key := ih s.train.2
        generalize s.train.2.trainTimes n = reply at key ⊢
        cases key with
        | @all summaries h hn =>
          -- The empty line before the rest is one between two summaries, as the rest is not empty.
          cases summaries with
          | nil => exact absurd hn.symm (by assumption)
          | cons t ts =>
            have hlen : (summary :: t :: ts).length = n + 1 := by rw [List.length_cons, hn]
            exact Trains.all (Yields.cons hs h) hlen
        | stopped h hn hf =>
          exact .stopped (Yields.cons hs h) (Nat.succ_lt_succ hn) hf

/-- If the trainings all succeed, so do the `n` trainings. -/
theorem Trains.eq_of_yields {s : Session E} {n : Nat} {reply : Reply E} (h : Trains s n reply)
    {summaries : List Line} (hy : s.Yields summaries) (hn : summaries.length = n) :
    reply = ⟨s.trained n, summaries.intersperse (some ""), none⟩ := by
  cases h with
  | all hy' hn' => rw [hy.unique hy' (hn.trans hn'.symm)]
  | stopped _ hlt hf => exact absurd (hy.length_le hf) (by omega)

/-- If a training is the first that fails, the `n` trainings end with it. -/
theorem Trains.eq_of_error {s : Session E} {n : Nat} {reply : Reply E} (h : Trains s n reply)
    {summaries : List Line} {fault : Fault} (hy : s.Yields summaries) (hn : summaries.length < n)
    (hf : s.outcome summaries.length = .error fault) :
    reply = ⟨s.trained (summaries.length + 1), summaries.flatMap ([·, some ""]), some fault⟩ := by
  cases h with
  | all hy' hn' => exact absurd (hy'.length_le hf) (by omega)
  | @stopped summaries' fault' hy' _ hf' =>
    obtain rfl := hy.unique hy' (Nat.le_antisymm (hy.length_le hf') (hy'.length_le hf))
    obtain rfl := Except.error.inj (hf.symm.trans hf')
    rfl

end Aviary.Session
