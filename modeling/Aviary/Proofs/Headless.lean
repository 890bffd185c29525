import Aviary.CommandLine
import Aviary.Engine.Scripted
import Aviary.Proofs.Typing
import Aviary.Proofs.Window

/-!
# Training without a window

Training without a window comes to the same as opening one and typing the command to train into its panel.  The
scenario's command is fed in one case and entered as it is in the other, which makes no difference because no blanks
are around it (`submission?_command`).  The main statement is `headless_agrees`.
-/

namespace Aviary

theorem submission?_command {s : Scenario} (h : s ∈ Scenario.all) : submission? s.command = some s.command := by
  revert s
  decide +kernel

namespace CommandLine

open Window

variable {E : Engine}

/-- The line that is fed to train for `n` generations. -/
def trainLine (n : Int) : String := "train " ++ toString n

/-- Feeding the command of a scenario is entering it. -/
private theorem feed_command (session : Session E) {key : String} {s : Scenario} (h : Scenario.find? key = some s) :
    session.feed s.command = session.answer s.command := by
  unfold Session.feed
  rw [submission?_command (List.mem_of_find?_eq_some h)]

/-- Without a window, the lines are those of the scenario's command and then those of the training. -/
theorem headless_eq (n : Int) {scenario : Option String}
    (hs : ∀ key, scenario = some key → (Scenario.find? key).isSome = true) :
    headless E n scenario = do
      let session ← Session.start E E.defaults true
      let (session, before) := prepare session scenario
      let (session, lines) := session.feed (trainLine n)
      return (session, before ++ lines) := by
  unfold headless
  cases scenario with
  | none => rfl
  | some key =>
    obtain ⟨s, hfind⟩ := Option.isSome_iff_exists.mp (hs key rfl)
    have hkey : key.isEmpty = false := by
      refine Bool.eq_false_iff.mpr fun hempty => ?_
      have hnone : Scenario.find? "" = none := by decide +kernel
      rw [String.isEmpty_iff.mp hempty, hnone] at hfind
      cases hfind
    have hprepare : ∀ session : Session E, prepare session (some key) = session.feed s.command := by
      intro session
      rw [feed_command session hfind]
      simp only [prepare, Option.bind_some, hfind]
    simp only [hkey, hfind, hprepare]
    rfl

/-- Training without a window and typing the command to train into the panel of a new window come to the same: either
no simulation can be built, with the same fault, or the sessions are equal and the panel has the lines of the training
behind the introduction.  There is such a window in any size for which the panel has a surface. -/
theorem headless_agrees [Memory] (E : Engine) (n : Int) {scenario : Option String}
    (hs : ∀ key, scenario = some key → (Scenario.find? key).isSome = true) :
    (∃ cause, headless E n scenario = .error (.construction cause) ∧
      ∀ width height, Window.make E width height scenario = .error (.construction cause)) ∨
    ∃ session lines, headless E n scenario = .ok (session, lines) ∧
      (∀ width height, (∃ made, Window.make E width height scenario = .ok made) ↔
        ∃ size, Surface.size panelWidth height = .ok size) ∧
      ∀ {width height : Int} {w : Window E} {call : Call Number},
        Window.make E width height scenario = .ok (w, call) →
          ∀ s : Submission, s.text = trainLine n →
            (w.press s.events).session = session ∧
              (w.press s.events).panel.lines = Line.ofTexts Introduction.lines ++ lines := by
  rw [headless_eq n hs]
  cases hstart : Session.start E E.defaults true with
  | error fault =>
    -- whatever keeps the first simulation from being built is told as the cause of one fault
    have hcause : ∃ cause, fault = .construction cause := by
      unfold Session.start at hstart
      split at hstart
      · exact ⟨_, (Except.error.inj hstart).symm⟩
      · cases hstart
    obtain ⟨cause, rfl⟩ := hcause
    refine .inl ⟨cause, rfl, fun width height => ?_⟩
    unfold make
    rw [hstart]
    rfl
  | ok session =>
    refine .inr ⟨_, _, rfl, ?_, ?_⟩
    · intro width height
      constructor
      · rintro ⟨⟨w, call⟩, hw⟩
        exact exists_size_of_make hw
      · rintro ⟨size, hsize⟩
        obtain ⟨fault, herror, -⟩ | ⟨w, call, hw⟩ := make_of_start hstart width height scenario
        · rw [hsize] at herror
          cases herror
        · exact ⟨_, hw⟩
    · intro width height w call hw s htext
      obtain ⟨session', hsession, hfresh⟩ := eq_of_make hw
      obtain rfl := Except.ok.inj (hstart.symm.trans hsession)
      have hsession : w.session = (prepare session scenario).1 := by rw [hfresh]
      have hlines : w.panel.lines = Line.ofTexts Introduction.lines ++ (prepare session scenario).2 := by rw [hfresh]
      have hinput : w.panel.input = "" := by rw [hfresh]
      obtain ⟨scrollBack, htyped⟩ := take_typed w hinput s
      rw [htext, hsession] at htyped
      have hpress : w.press s.events = _ := htyped
      rw [hpress, Panel.lines_printAll, hlines, List.append_assoc]
      exact ⟨rfl, rfl⟩

/-- A script in which only the first simulation can be built, and the second training fails. -/
def haunted : Engine.Script where
  defaults := Config.ofList [("brain_neurons", .whole 9)]
  world := ⟨[], []⟩
  builds := [none, some (.reported "ValueError" "no such brain")]
  steps := []
  trainings := [.ok (some "generation 1"), .error (.reported "RuntimeError" "a ghost")]

/-- Both faults are reported in the panel as they are without a window. -/
theorem headless_agrees_haunted :
    let typed : Submission := ⟨[.text "train", .text " 22", .keyDown .backspace], .keypadEnter, by decide, rfl⟩
    let lines : List Line := Line.ofTexts ["", "$ r i:brain_neurons=1", "  ^ err: no such brain", "", "$ train 2",
      "generation 1", "", "  ^ err: a ghost"]
    (∀ key, some "zombies" = some key → (Scenario.find? key).isSome = true) ∧ typed.text = trainLine 2 ∧
      ∃ session w call, headless (Engine.scripted haunted) 2 (some "zombies") = .ok (session, lines) ∧
        Window.make (Engine.scripted haunted) 640 480 (some "zombies") = .ok (w, call) ∧
        (w.press typed.events).session = session ∧
        (w.press typed.events).panel.lines = Line.ofTexts Introduction.lines ++ lines := by
  intro typed lines
  have hs : ∀ key, some "zombies" = some key → (Scenario.find? key).isSome = true := by
    rintro key ⟨rfl⟩
    decide +kernel
  have htext : typed.text = trainLine 2 := by decide +kernel
  have hlines : headless (Engine.scripted haunted) 2 (some "zombies") = .ok (_, lines) := rfl
  have hmake : Window.make (Engine.scripted haunted) 640 480 (some "zombies") = .ok (_, _) := rfl
  obtain ⟨cause, herror, -⟩ | ⟨session, lines', hok, -, hmade⟩ := headless_agrees (Engine.scripted haunted) 2 hs
  · rw [hlines] at herror
    cases herror
  · obtain ⟨rfl, rfl⟩ := Prod.mk.inj (Except.ok.inj (hlines.symm.trans hok))
    exact ⟨hs, htext, _, _, _, hlines, hmake, hmade hmake typed htext⟩

end CommandLine

end Aviary
