import Aviary.Proofs.Override
import Aviary.Proofs.Refusal
import Aviary.Proofs.Sample

/-!
# The command language

The lines that the sample engine's console accepts, and the fault of every other line.  A line has one verdict
(`Verdict`): a square bracket decides before anything else, then the first word, then the number of arguments, then the
arguments from left to right, and last the configuration that a reset asks for.  The key fact: a line ends as its
verdict says, whatever the session (`fault_execute_iff`).
-/

namespace Aviary.Command

open Config Engine

/-- The words of a line. -/
def tokens (line : String) : List String := (Text.words line.toList).map String.ofList

def Bracketed (line : String) : Prop := '[' ∈ line.toList ∨ ']' ∈ line.toList

def IsPause (name : String) : Prop := name = "p" ∨ name = "pause"

def IsReset (name : String) : Prop := name = "r" ∨ name = "reset"

def IsTrain (name : String) : Prop := name = "t" ∨ name = "train"

/-- The verdict on the words of a line without square brackets: the fault that the line ends in, if it does. -/
inductive WordsVerdict : List String → Option Fault → Prop
  | noWord : WordsVerdict [] (some .unknownCommand)
  | unknown {name : String} {args : List String} (hp : ¬ IsPause name) (hr : ¬ IsReset name) (ht : ¬ IsTrain name) :
      WordsVerdict (name :: args) (some .unknownCommand)
  | pause {name : String} (h : IsPause name) : WordsVerdict [name] none
  | pauseArguments {name : String} {args : List String} (h : IsPause name) (ha : args ≠ []) :
      WordsVerdict (name :: args) (some .noParameters)
  | train {name : String} (h : IsTrain name) : WordsVerdict [name] none
  | trainCount {name arg : String} {n : Int} (h : IsTrain name) (hn : Literal.integer? arg.toList = some n) :
      WordsVerdict [name, arg] none
  | trainBadCount {name arg : String} (h : IsTrain name) (hn : Literal.integer? arg.toList = none) :
      WordsVerdict [name, arg] (some (.badCount arg))
  | trainArguments {name : String} {args : List String} (h : IsTrain name) (ha : 2 ≤ args.length) :
      WordsVerdict (name :: args) (some .oneParameter)
  | resetArgument {name arg : String} {before after : List String} {fault : Fault} (h : IsReset name)
      (hb : ∀ a ∈ before, Applies Sample.defaults a) (ha : Refuses Sample.defaults arg fault) :
      WordsVerdict (name :: (before ++ arg :: after)) (some fault)
  | resetUnfit {name : String} {args : List String} {config : Config} {cause : Fault} (h : IsReset name)
      (ha : ∀ a ∈ args, Applies Sample.defaults a) (hc : Sample.defaults.build args = .ok config)
      (hu : Sample.Unfit config cause) : WordsVerdict (name :: args) (some (.construction cause))
  | reset {name : String} {args : List String} {config : Config} (h : IsReset name)
      (ha : ∀ a ∈ args, Applies Sample.defaults a) (hc : Sample.defaults.build args = .ok config)
      (hu : ∀ cause, ¬ Sample.Unfit config cause) : WordsVerdict (name :: args) none

/-- The verdict on a line. -/
inductive Verdict (line : String) : Option Fault → Prop
  | bracket (h : Bracketed line) : Verdict line (some .squareBracket)
  | words {fault? : Option Fault} (h : ¬ Bracketed line) (hw : WordsVerdict (tokens line) fault?) :
      Verdict line fault?

theorem ofLine_of_bracketed {line : String} (h : Bracketed line) : ofLine line = .error .squareBracket := by
  have ha : line.toList.any (fun c => c = '[' || c = ']') = true := by
    rw [List.any_eq_true]
    rcases h with h | h
    · exact ⟨_, h, by simp⟩
    · exact ⟨_, h, by simp⟩
  simp only [ofLine, ha, if_true]

theorem ofLine_of_not_bracketed {line : String} (h : ¬ Bracketed line) :
    ofLine line = ofWords (tokens line) := by
  have ha : line.toList.any (fun c => c = '[' || c = ']') = false := by
    rw [List.any_eq_false]
    intro c hc he
    simp only [Bool.or_eq_true, decide_eq_true_eq] at he
    rcases he with rfl | rfl
    · exact h (.inl hc)
    · exact h (.inr hc)
  simp only [ofLine, ha, Bool.false_eq_true, if_false, tokens]

/-! ### The three kinds of commands -/

private theorem not_isReset_of_isPause {name : String} (h : IsPause name) : ¬ IsReset name := by
  rcases h with rfl | rfl <;> simp [IsReset]

private theorem ofWords_pause {name : String} (h : IsPause name) (args : List String) :
    ofWords (name :: args) = if args.isEmpty then .ok pause else .error .noParameters := by
  unfold IsPause at h
  simp only [ofWords, h, if_true]

theorem ofWords_reset {name : String} (h : IsReset name) (args : List String) :
    ofWords (name :: args) = .ok (reset args) := by
  have hp : ¬ IsPause name := fun hp => not_isReset_of_isPause hp h
  unfold IsReset IsPause at *
  simp only [ofWords, hp, h, if_true, if_false]

theorem ofWords_train {name : String} (h : IsTrain name) : ofWords [name] = .ok (train 1) := by
  rcases h with rfl | rfl <;> simp [ofWords]

theorem ofWords_trainCount {name arg : String} {n : Int} (h : IsTrain name)
    (hn : Literal.integer? arg.toList = some n) : ofWords [name, arg] = .ok (train n) := by
  rcases h with rfl | rfl <;> simp [ofWords, hn]

private theorem ofWords_trainBadCount {name arg : String} (h : IsTrain name)
    (hn : Literal.integer? arg.toList = none) : ofWords [name, arg] = .error (.badCount arg) := by
  rcases h with rfl | rfl <;> simp [ofWords, hn]

private theorem ofWords_trainArguments {name : String} (h : IsTrain name) {args : List String}
    (ha : 2 ≤ args.length) : ofWords (name :: args) = .error .oneParameter := by
  match args, ha with
  | a :: b :: args, _ => rcases h with rfl | rfl <;> simp [ofWords]

private theorem ofWords_unknown {name : String} (hp : ¬ IsPause name) (hr : ¬ IsReset name) (ht : ¬ IsTrain name)
    (args : List String) : ofWords (name :: args) = .error .unknownCommand := by
  unfold IsPause IsReset IsTrain at *
  simp only [ofWords, hp, hr, ht, if_false]

/-! ### Verdicts are what lines end in -/

variable [Memory]

private def ending (s : Session Engine.sample) : Except Fault Command → Option Fault
  | .error fault => some fault
  | .ok command => (s.run command).fault

private theorem fault_execute (s : Session Engine.sample) (line : String) :
    (s.execute line).fault = ending s (ofLine line) := by
  unfold Session.execute ending
  cases ofLine line <;> rfl

/-- A reset ends in the fault of its first bad argument, or of the configuration, or goes through. -/
private theorem wordsVerdict_reset (s : Session Engine.sample) {name : String} (h : IsReset name)
    (args : List String) : WordsVerdict (name :: args) (s.resetWith args).fault := by
  by_cases ha : ∀ a ∈ args, Applies Sample.defaults a
  · obtain ⟨c, hc, hn, -⟩ := build_of_applies rfl ha
    cases hk : Sample.check c with
    | error cause =>
      rw [Sample.resetWith_of_check_error s hc hk]
      exact .resetUnfit h ha hc ((Sample.check_eq_error_iff hn).1 hk)
    | ok =>
      rw [Sample.resetWith_of_check s hc hk]
      exact .reset h ha hc ((Sample.check_eq_ok_iff hn).1 hk)
  · obtain ⟨before, arg, after, fault, rfl, hb, hr⟩ := exists_first_refuses ha
    rw [Sample.resetWith_of_error s (build_of_refuses hb hr after)]
    exact .resetArgument h hb hr

private theorem wordsVerdict_ending (s : Session Engine.sample) (words : List String) :
    WordsVerdict words (ending s (ofWords words)) := by
  cases words with
  | nil => exact .noWord
  | cons name args =>
    by_cases hp : IsPause name
    · rw [ofWords_pause hp]
      cases args with
      | nil => exact .pause hp
      | cons arg args => exact .pauseArguments hp (by simp)
    · by_cases hr : IsReset name
      · rw [ofWords_reset hr]
        exact wordsVerdict_reset s hr args
      · by_cases ht : IsTrain name
        · match args with
          | [] =>
            rw [ofWords_train ht]
            show WordsVerdict _ (s.trainTimes 1).fault
            rw [Sample.fault_trainTimes]
            exact .train ht
          | [arg] =>
            cases hn : Literal.integer? arg.toList with
            | none =>
              rw [ofWords_trainBadCount ht hn]
              exact .trainBadCount ht hn
            | some n =>
              rw [ofWords_trainCount ht hn]
              show WordsVerdict _ (s.trainTimes n.toNat).fault
              rw [Sample.fault_trainTimes]
              exact .trainCount ht hn
          | a :: b :: args =>
            rw [ofWords_trainArguments ht (by simp)]
            exact .trainArguments ht (by simp)
        · rw [ofWords_unknown hp hr ht]
          exact .unknown hp hr ht

private theorem ending_of_wordsVerdict (s : Session Engine.sample) {words : List String} {fault? : Option Fault}
    (h : WordsVerdict words fault?) : ending s (ofWords words) = fault? := by
  cases h with
  | noWord => rfl
  | unknown hp hr ht => rw [ofWords_unknown hp hr ht]; rfl
  | pause h => rw [ofWords_pause h]; rfl
  | @pauseArguments name args h ha =>
    have he : args.isEmpty = false := by simpa using ha
    rw [ofWords_pause h, he]
    rfl
  | train h => rw [ofWords_train h]; exact Sample.fault_trainTimes s _
  | trainCount h hn => rw [ofWords_trainCount h hn]; exact Sample.fault_trainTimes s _
  | trainBadCount h hn => rw [ofWords_trainBadCount h hn]; rfl
  | trainArguments h ha => rw [ofWords_trainArguments h ha]; rfl
  | @resetArgument _ _ _ after _ h hb ha =>
    rw [ofWords_reset h]
    show (s.resetWith _).fault = _
    rw [Sample.resetWith_of_error s (build_of_refuses hb ha after)]
  | resetUnfit h ha hc hu =>
    rw [ofWords_reset h]
    show (s.resetWith _).fault = _
    rw [Sample.resetWith_of_check_error s hc ((Sample.check_eq_error_iff (names_build hc)).2 hu)]
  | reset h ha hc hu =>
    rw [ofWords_reset h]
    show (s.resetWith _).fault = _
    rw [Sample.resetWith_of_check s hc ((Sample.check_eq_ok_iff (names_build hc)).2 hu)]

/-- A line ends in a fault, or in none, exactly if that is the verdict on it. -/
theorem fault_execute_iff (s : Session Engine.sample) (line : String) (fault? : Option Fault) :
    (s.execute line).fault = fault? ↔ Verdict line fault? := by
  rw [fault_execute]
  constructor
  · rintro rfl
    by_cases h : Bracketed line
    · rw [ofLine_of_bracketed h]
      exact .bracket h
    · rw [ofLine_of_not_bracketed h]
      exact .words h (wordsVerdict_ending s _)
  · intro h
    cases h with
    | bracket h => rw [ofLine_of_bracketed h]; rfl
    | words h hw =>
      rw [ofLine_of_not_bracketed h]
      exact ending_of_wordsVerdict s hw

end Aviary.Command
