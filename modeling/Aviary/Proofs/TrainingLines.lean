import Aviary.Engine.Scripted
import Aviary.Proofs.Grammar

/-!
# The command to train

A line that asks for `n` trainings prints what they give, with an empty line between two summaries.  If one of them
fails, the line ends in its fault, with the trainings made so far printed and the empty line behind the last of them,
and the next line that asks for trainings goes on behind the one that failed (`execute_train`).
-/

namespace Aviary

/-- Whether a line asks for `n` trainings: one if it does not say how many. -/
def Command.AsksTraining (line : String) (n : Int) : Prop :=
  ¬ Bracketed line ∧ ∃ name, IsTrain name ∧
    (tokens line = [name] ∧ n = 1 ∨ ∃ arg, tokens line = [name, arg] ∧ Literal.integer? arg.toList = some n)

private theorem Command.AsksTraining.ofLine_eq {line : String} {n : Int} (h : AsksTraining line n) :
    ofLine line = .ok (.train n) := by
  obtain ⟨hb, name, hname, ⟨htokens, rfl⟩ | ⟨arg, htokens, harg⟩⟩ := h
  · rw [ofLine_of_not_bracketed hb, htokens, ofWords_train hname]
  · rw [ofLine_of_not_bracketed hb, htokens, ofWords_trainCount hname harg]

namespace Session

variable {E : Engine}

/-- A line that asks for `n` trainings makes all of them if they succeed, and prints their summaries with an empty line
between two.  If a training is the first that fails, it is the last that is made: the summaries before it are printed,
each with an empty line behind it, the line ends in the fault of the training, and the simulation stays installed, so
that its next training is the one behind that. -/
theorem execute_train (s : Session E) {line : String} {n : Int} (h : Command.AsksTraining line n) :
    (∀ summaries : List Line, s.Yields summaries → summaries.length = n.toNat →
      s.execute line = ⟨s.trained n.toNat, summaries.intersperse (some ""), none⟩ ∧
        (s.execute line).session.simulation.trains = s.simulation.trains + n.toNat) ∧
    ∀ (summaries : List Line) (fault : Fault), s.Yields summaries → summaries.length < n.toNat →
      s.outcome summaries.length = .error fault →
        s.execute line = ⟨s.trained (summaries.length + 1), summaries.flatMap ([·, some ""]), some fault⟩ ∧
        (s.execute line).session.simulation.trains = s.simulation.trains + (summaries.length + 1) ∧
        (s.execute line).session.built = s.built ∧
        ∀ i, (s.execute line).session.outcome i = s.outcome (summaries.length + 1 + i) := by
  have key : s.Trains n.toNat (s.execute line) := by
    unfold execute
    rw [h.ofLine_eq]
    exact trains_trainTimes s n.toNat
  constructor
  · intro summaries hy hn
    rw [key.eq_of_yields hy hn]
    exact ⟨rfl, trains_trained s n.toNat⟩
  · intro summaries fault hy hn hf
    rw [key.eq_of_error hy hn hf]
    exact ⟨rfl, trains_trained s _, built_trained s _, fun i => outcome_trained s _ i⟩

/-- A script in which the third training fails. -/
def straining : Engine.Script where
  defaults := Config.ofList [("food_size", .real 0.01)]
  world := ⟨[], []⟩
  builds := []
  steps := []
  trainings := [.ok (some "generation 1"), .ok (some "generation 2"), .error (.reported "RuntimeError" "too tired"),
    .ok (some "generation 3")]

/-- A session for it. -/
def strained : Session (Engine.scripted straining) :=
  ⟨[], ⟨⟨straining.defaults, straining.steps, straining.trainings⟩, 0, 0⟩, 1, true⟩

/-- Two trainings succeed; of five the third fails, and the next one is the fourth. -/
theorem execute_train_strained :
    Command.AsksTraining "t 2" 2 ∧ Command.AsksTraining " train  +5" 5 ∧
      strained.Yields [some "generation 1", some "generation 2"] ∧
      strained.outcome 2 = .error (.reported "RuntimeError" "too tired") ∧
      (strained.execute "t 2").printed = [some "generation 1", some "", some "generation 2"] ∧
      (strained.execute " train  +5").printed = [some "generation 1", some "", some "generation 2", some ""] ∧
      (strained.execute " train  +5").fault = some (.reported "RuntimeError" "too tired") ∧
      (strained.execute " train  +5").session.outcome 0 = .ok (some "generation 3") := by
  have htwo : Command.AsksTraining "t 2" 2 :=
    ⟨by unfold Command.Bracketed; decide +kernel, "t", .inl rfl, .inr ⟨"2", by decide +kernel, by decide +kernel⟩⟩
  have hfive : Command.AsksTraining " train  +5" 5 :=
    ⟨by unfold Command.Bracketed; decide +kernel, "train", .inr rfl, .inr ⟨"+5", by decide +kernel, by decide +kernel⟩⟩
  have hyields : strained.Yields [some "generation 1", some "generation 2"] := .cons rfl (.cons rfl (.nil _))
  have hfails : strained.outcome 2 = .error (.reported "RuntimeError" "too tired") := rfl
  obtain ⟨hall, -⟩ := (execute_train strained htwo).1 _ hyields rfl
  obtain ⟨hstopped, -, -, hnext⟩ := (execute_train strained hfive).2 _ _ hyields (by decide) hfails
  refine ⟨htwo, hfive, hyields, hfails, ?_, ?_, ?_, (hnext 0).trans rfl⟩
  · rw [hall]
    rfl
  · rw [hstopped]
    rfl
  · rw [hstopped]

end Session

end Aviary
