import Mathlib.Data.List.Basic
import Aviary.Main
import Aviary.Proofs.Loop
import Aviary.Proofs.Program

/-!
# When a window is opened

A run opens a window if it starts up the display or gives it a size (`Report.Opens`).  A window that was made always
does the first (`exists_init_mem_run`), and nothing else does either, so it depends on the settings alone whether a
window is opened: it is not if something is listed or trained.  A number of generations that is not positive trains
nothing, and then a window is opened even if the number was given (`exists_opens_train`).  The main statement is
`opens_iff_of_cuts`.
-/

namespace Aviary

private theorem Picture.mem_calls_andThen {α : Type} {p : Picture α} (q : Picture α) {call : α} (h : call ∈ p.calls) :
    call ∈ (p.andThen q).calls := by
  unfold andThen
  split
  · exact h
  · exact List.mem_append_left _ h

/-- A window that is run starts up the display first of all. -/
theorem Window.exists_init_mem_run [Memory] {E : Engine} (w : Window E) (font : Font) (time : Nat → Float)
    (events : List (List Event)) :
    ∃ first rest, (w.run font time events).batches = first :: rest ∧ .init ∈ first := by
  have hstart : .init ∈ w.start.calls :=
    Picture.mem_calls_andThen _ (Picture.mem_calls_andThen _ List.mem_cons_self)
  unfold run
  split
  · exact ⟨_, _, rfl, hstart⟩
  · split
    · exact ⟨_, _, rfl, Picture.mem_calls_andThen _ hstart⟩
    · dsimp only
      split
      · exact ⟨_, _, rfl, Picture.mem_calls_andThen _ hstart⟩
      · exact ⟨_, _, rfl, Picture.mem_calls_andThen _ (Picture.mem_calls_andThen _ hstart)⟩

/-- A module `scripted` with one engine, which plays a script. -/
def Catalogue.scripted (script : Engine.Script) : Catalogue :=
  ⟨[{ name := "scripted", isPackage := false, entries := [⟨"Engine", "Engine", .ok (Engine.scripted script)⟩] }]⟩

private theorem Catalogue.load_scripted (script : Engine.Script) :
    (scripted script).load "scripted:Engine" = .ok ⟨"Engine", "Engine", .ok (Engine.scripted script)⟩ := rfl

namespace CommandLine

open Window

/-- Whether a window was opened in the course of a run: the display was started up, or given a size. -/
def Report.Opens (r : Report) : Prop :=
  ∃ calls ∈ r.shown, ∃ call ∈ calls, call = .init ∨ ∃ width height, call = .setMode width height

private theorem Report.not_opens_ofLines (lines : List Line) (outcome : Except Fault Nat) :
    ¬ (Report.ofLines lines outcome).Opens := by
  rintro ⟨calls, hcalls, call, hcall, -⟩
  obtain rfl : calls = [] := List.mem_singleton.1 hcalls
  cases hcall

private theorem Report.not_opens_ofFault (printed : List String) (fault : Fault) :
    ¬ (Report.ofFault printed fault).Opens := by
  unfold Report.ofFault
  split <;> exact Report.not_opens_ofLines _ _

private theorem Report.opens_ofRun [Memory] {E : Engine} (printed : List String) (call : Call Number) (w : Window E)
    (display : Display) :
    (Report.ofRun printed call (w.run display.font display.time display.events)).Opens := by
  obtain ⟨first, rest, hbatches, hinit⟩ := w.exists_init_mem_run display.font display.time display.events
  refine ⟨call :: first, ?_, .init, List.mem_cons_of_mem _ hinit, .inl rfl⟩
  unfold Report.ofRun
  rw [hbatches]
  exact List.mem_cons_self

variable {catalogue : Catalogue} {display : Display} {s : Settings} {r : Report}

/-- A window is opened if nothing is listed or trained, as long as a simulation can be started and there can be a
surface for the panel. -/
private theorem Performs.opens_iff [Memory] (h : Performs catalogue display s r) :
    r.Opens ↔ s.list = false ∧ s.train ≤ 0 ∧
      ∃ (entry : Entry) (E : Engine) (session : Session E), catalogue.load s.enginePath = .ok entry ∧
        entry.Starts E session ∧ ∃ size, Surface.size panelWidth s.height = .ok size := by
  constructor
  · intro hopens
    cases h with
    | relative | unloaded | listed | trained | unmade => exact absurd hopens (Report.not_opens_ofLines _ _)
    | unstarted => exact absurd hopens (Report.not_opens_ofFault _ _)
    | @opened entry E session _ _ hload hs hl ht hw =>
      exact ⟨hl, ht, entry, E, session, hload, hs, exists_size_of_make hw⟩
  · rintro ⟨hl, ht, entry, E, session, hload, hs, size, hsize⟩
    cases h with
    | relative hload' | unloaded hload' =>
      rw [hload] at hload'
      cases hload'
    | unstarted hload' hf =>
      obtain rfl := Except.ok.inj (hload.symm.trans hload')
      exact absurd hf (hs.not_fails _)
    | listed _ _ hl' =>
      rw [hl] at hl'
      cases hl'
    | trained _ _ _ ht' => omega
    | unmade _ _ _ _ hw =>
      rw [hsize] at hw
      cases hw
    | opened => exact Report.opens_ofRun _ _ _ _

/-- What is trained without a window: the scenario's command, and as many generations as the settings ask for unless one
fails. -/
private theorem Performs.exists_trains [Memory] (h : Performs catalogue display s r) (hl : s.list = false)
    (ht : 0 < s.train) {entry : Entry} {E : Engine} {session : Session E}
    (hload : catalogue.load s.enginePath = .ok entry) (hs : entry.Starts E session) :
    ∃ reply, (prepare session s.scenario).1.Trains s.train.toNat reply ∧
      r = .ofLines (Line.ofTexts s.heading ++ ((prepare session s.scenario).2 ++
        ([some "", some ("$ " ++ trainLine s.train)] ++ reply.printed ++ Console.complaints reply.fault))) (.ok 0) := by
  cases h with
  | relative hload' | unloaded hload' =>
    rw [hload] at hload'
    cases hload'
  | unstarted hload' hf =>
    obtain rfl := Except.ok.inj (hload.symm.trans hload')
    exact absurd hf (hs.not_fails _)
  | listed _ _ hl' =>
    rw [hl] at hl'
    cases hl'
  | unmade _ _ _ ht' | opened _ _ _ ht' => omega
  | trained hload' hs' _ _ hr =>
    obtain rfl := Except.ok.inj (hload.symm.trans hload')
    obtain rfl := Except.ok.inj (hs.1.symm.trans hs'.1)
    obtain rfl := Except.ok.inj (hs.2.symm.trans hs'.2)
    exact ⟨_, hr, rfl⟩

/-- If no item stops the scan, a window is opened if and only if nothing is listed, the number of generations is not
positive, a simulation can be started, and there can be a surface for the panel.  If the number is positive, the
simulation is trained as many times, unless a training fails, and the exit status is zero. -/
theorem opens_iff_of_cuts [Memory] (catalogue : Catalogue) (display : Display) {args : List String}
    {items : List Item} (h : Cuts args items) (hp : ∀ i ∈ items, i.Passes) (hg : Gathers items s) :
    ((run catalogue display args).Opens ↔ s.list = false ∧ s.train ≤ 0 ∧
      ∃ (entry : Entry) (E : Engine) (session : Session E), catalogue.load s.enginePath = .ok entry ∧
        entry.Starts E session ∧ ∃ size, Surface.size panelWidth s.height = .ok size) ∧
    (s.list = false → 0 < s.train → ∀ (entry : Entry) (E : Engine) (session : Session E),
      catalogue.load s.enginePath = .ok entry → entry.Starts E session →
        ∃ reply, (prepare session s.scenario).1.Trains s.train.toNat reply ∧
          run catalogue display args = .ofLines (Line.ofTexts s.heading ++ ((prepare session s.scenario).2 ++
            ([some "", some ("$ " ++ trainLine s.train)] ++ reply.printed ++ Console.complaints reply.fault)))
            (.ok 0)) :=
  have hperforms := performs_run catalogue display h hp hg
  ⟨hperforms.opens_iff, fun hl ht _ _ _ hload hs => hperforms.exists_trains hl ht hload hs⟩

/-- The second training fails, and no window is opened. -/
theorem opens_iff_of_cuts_haunted :
    let args := ["--train", "0", "zombies", "--engine", "scripted:Engine", "--train", "2"]
    let items : List Item := [.train "0", .scenario "zombies", .engine "scripted:Engine", .train "2"]
    let s : Settings := { scenario := some "zombies", enginePath := "scripted:Engine", train := 2 }
    Cuts args items ∧ (∀ i ∈ items, i.Passes) ∧ Gathers items s ∧
      ¬ (run (.scripted haunted) .still args).Opens ∧ (run (.scripted haunted) .still args).outcome = .ok 0 := by
  intro args items s
  have hcuts : Cuts args items :=
    .train (.scenario (by decide +kernel) (.engine (.train .nil)))
  have hpass : ∀ i ∈ items, i.Passes := by
    simp only [items, List.forall_mem_cons, Item.passes_train]
    refine ⟨⟨0, by decide +kernel⟩, nofun, nofun, ⟨2, by decide +kernel⟩, List.forall_mem_nil _⟩
  have hgathers : Gathers items s := gathers_foldl items
  obtain ⟨hopens, htrains⟩ := opens_iff_of_cuts (.scripted haunted) .still hcuts hpass hgathers
  refine ⟨hcuts, hpass, hgathers, fun h => absurd (hopens.1 h).2.1 (by decide), ?_⟩
  have hstart : Session.start (Engine.scripted haunted) (Engine.scripted haunted).defaults true = .ok _ := rfl
  obtain ⟨reply, -, hrun⟩ := htrains rfl (by decide) _ _ _ (Catalogue.load_scripted haunted) ⟨rfl, hstart⟩
  rw [hrun]
  rfl

/-- A number of generations that was given but is zero opens a window. -/
theorem exists_opens_train :
    let args := ["--engine", "scripted:Engine", "--train", "0"]
    let items : List Item := [.engine "scripted:Engine", .train "0"]
    Cuts args items ∧ (∀ i ∈ items, i.Passes) ∧ (run (.scripted wasteland) .still args).Opens := by
  intro args items
  have hcuts : Cuts args items := .engine (.train .nil)
  have hpass : ∀ i ∈ items, i.Passes := by
    simp only [items, List.forall_mem_cons, Item.passes_train]
    exact ⟨nofun, ⟨0, by decide +kernel⟩, List.forall_mem_nil _⟩
  have hgathers : Gathers items { enginePath := "scripted:Engine" } := gathers_foldl items
  have hstart : Session.start (Engine.scripted wasteland) (Engine.scripted wasteland).defaults true = .ok _ := rfl
  have hperforms := performs_run (.scripted wasteland) .still hcuts hpass hgathers
  refine ⟨hcuts, hpass, hperforms.opens_iff.2 ⟨rfl, Int.le_refl 0, ?_⟩⟩
  exact ⟨_, _, _, Catalogue.load_scripted wasteland, ⟨rfl, hstart⟩, _, rfl⟩

end CommandLine

end Aviary
