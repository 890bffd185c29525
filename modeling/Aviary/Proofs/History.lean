import Mathlib.Data.List.DropRight
import Aviary.Proofs.Run

/-!
# The history of a session

What the actions of a run did, printed and painted, one record for each.  What a record says and what the action did to
the session are said together (`Does`, `does_record`), and whatever these steps keep of a history and its session holds
of every history (`history_of_does`).  The records since the last simulation was installed are the stretch of a
history.
-/

namespace Aviary

/-- What became of an action: of a line, refused or not, or of a frame, with a step or without. -/
inductive Deed where
  | refused
  | paused
  | trained (generations : Int)
  | installed (overrides : List String)
  | stepped
  | rested
  deriving DecidableEq

def Deed.installs : Deed → Bool
  | installed _ => true
  | _ => false

/-- What is known of an action: what became of it, the lines it printed and what it painted. -/
structure Record where
  deed : Deed
  printed : List Line
  painted : Picture Primitive

/-- The records of some actions, the first of them first. -/
abbrev History := List Record

/-- What was painted of a frame, which is nothing if there was no world. -/
def Frame.picture {E : Engine} (f : Frame E) : Picture Primitive :=
  match f.scene with
  | .error fault => .stop fault
  | .ok (_, picture) => picture

namespace Session

variable {E : Engine} [Memory]

/-- A line is refused if it ends in a fault, and else does what its command says. -/
def deed (s : Session E) : Action → Deed
  | .line text =>
    match Command.ofLine text, (s.execute text).fault with
    | .ok .pause, none => .paused
    | .ok (.train n), none => .trained n
    | .ok (.reset overrides), none => .installed overrides
    | _, _ => .refused
  | .frame => if s.active then .stepped else .rested

def record (s : Session E) (action : Action) : Record :=
  match action with
  | .line text => ⟨s.deed action, (s.answer text).2, .done⟩
  | .frame => ⟨s.deed action, s.redraw.printed, s.redraw.picture⟩

/-- The records of some actions, the first of the list first. -/
def history (s : Session E) : List Action → History
  | [] => []
  | action :: actions => s.record action :: (s.act action).history actions

private theorem after_concat (s : Session E) (actions : List Action) (action : Action) :
    s.after (actions ++ [action]) = (s.after actions).act action := by
  unfold after
  rw [List.foldl_append]
  rfl

private theorem history_concat (s : Session E) (actions : List Action) (action : Action) :
    s.history (actions ++ [action]) = s.history actions ++ [(s.after actions).record action] := by
  induction actions generalizing s with
  | nil => rfl
  | cons a actions ih => exact congrArg (s.record a :: ·) (ih (s.act a))

/-- The lines that stand over the answer to a line. -/
def heading (text : String) : List Line := [some "", some (Console.echo ++ text)]

/-- The lines printed for what came of a step. -/
def stepLines : Except Fault (Option String) → List Line
  | .ok summary? => summaryLines summary?
  | .error _ => []

/-- What an action can be recorded as, with what it then did to the session. -/
inductive Does (s : Session E) : Record → Session E → Prop
  | refused (text : String) (fault : Fault) (factory : E.Factory) :
      Does s ⟨.refused, heading text ++ Console.complaints (some fault), .done⟩ { s with factory }
  | failed (text : String) {summaries : List Line} {fault : Fault} (hy : s.Yields summaries)
      (hf : s.outcome summaries.length = .error fault) :
      Does s ⟨.refused, heading text ++ summaries.flatMap ([·, some ""]) ++ Console.complaints (some fault), .done⟩
        (s.trained (summaries.length + 1))
  | paused (text : String) : Does s ⟨.paused, heading text, .done⟩ s.togglePause
  | trained (text : String) {n : Int} {summaries : List Line} (hy : s.Yields summaries)
      (hn : summaries.length = n.toNat) :
      Does s ⟨.trained n, heading text ++ summaries.intersperse (some ""), .done⟩ (s.trained n.toNat)
  | installed (text : String) {overrides : List String} {config : Config} {state : E.State} {factory : E.Factory}
      (hc : E.defaults.build overrides = .ok config) (hb : E.build s.factory config = (.ok state, factory)) :
      Does s ⟨.installed overrides, heading text, .done⟩
        { s with factory, simulation := ⟨state, 0, 0⟩, built := s.built + 1 }
  | stepped (h : s.active = true) (picture : Picture Primitive) :
      Does s ⟨.stepped, stepLines s.step.1, picture⟩ s.step.2
  | rested (h : s.active = false) (picture : Picture Primitive) : Does s ⟨.rested, [], picture⟩ s

private theorem does_line (s : Session E) (text : String) :
    s.Does (s.record (.line text)) (s.answer text).1 := by
  have key := executes_execute s text
  simp only [record, deed, answer]
  generalize s.execute text = reply at key ⊢
  cases key with
  | unread h =>
    simp only [h]
    exact .refused text _ s.factory
  | badArgument h =>
    simp only [h]
    exact .refused text _ s.factory
  | notBuilt h =>
    simp only [h]
    exact .refused text _ _
  | paused h =>
    simp only [h]
    exact .paused text
  | installed h hd hb =>
    simp only [h]
    exact .installed text hd hb
  | trained h ht =>
    simp only [h]
    cases ht with
    | all hy hn =>
      simp only [Console.complaints, List.append_nil]
      exact .trained text hy hn
    | stopped hy _ hf => exact .failed text hy hf

/-- A frame prints what its step gives, if there is one. -/
theorem printed_redraw (s : Session E) : s.redraw.printed = if s.active then stepLines s.step.1 else [] := by
  unfold redraw
  cases s.active with
  | true => rcases s.step with ⟨fault | summary?, t⟩ <;> rfl
  | false => rfl

private theorem does_frame (s : Session E) : s.Does (s.record .frame) s.redraw.session := by
  simp only [record, deed, printed_redraw]
  generalize s.redraw.picture = picture
  unfold redraw
  cases ha : s.active with
  | true =>
    have key := Does.stepped ha picture
    rcases hs : s.step with ⟨fault | summary?, t⟩ <;> rw [hs] at key <;> exact key
  | false => exact .rested ha picture

/-- An action is recorded as what it does to the session. -/
theorem does_record (s : Session E) (action : Action) : s.Does (s.record action) (s.act action) := by
  cases action with
  | line text => exact does_line s text
  | frame => exact does_frame s

/-- What holds before any action and is kept by whatever an action does holds of every history and the session after
it. -/
theorem history_of_does {P : History → Session E → Prop}
    (hdoes : ∀ records s record t, P records s → s.Does record t → P (records ++ [record]) t) {s : Session E}
    (h : P [] s) (actions : List Action) : P (s.history actions) (s.after actions) := by
  -- The last action is the one that is split off, as the stretch of a history is at its end.
  induction actions using List.reverseRecOn with
  | nil => exact h
  | append_singleton actions action ih =>
    rw [history_concat, after_concat]
    exact hdoes _ _ _ _ ih (does_record _ action)

end Session

namespace History

/-- The records since the last simulation was installed. -/
def stretch (records : History) : History := records.rtakeWhile fun r => !r.deed.installs

theorem stretch_concat (records : History) (record : Record) :
    stretch (records ++ [record]) = if record.deed.installs then [] else stretch records ++ [record] := by
  unfold stretch
  rw [List.rtakeWhile_concat]
  cases record.deed.installs <;> rfl

def steps (records : History) : Nat := records.countP (·.deed = .stepped)

theorem steps_concat (records : History) (record : Record) :
    steps (records ++ [record]) = steps records + if record.deed = .stepped then 1 else 0 := by
  simp [steps, List.countP_append, List.countP_singleton]

end History

end Aviary
