import Aviary.Engine.Scripted
import Aviary.Proofs.Window

/-!
# A window from opening to closing

What happens to an open window is a sequence of moments: events, and a frame after every batch of events that does not
close the window (`moments`).  A run plays these moments and no others, in order, and then quits (`loop_eq`).  On the
way it asks for events once for each batch up to the one that closes the window, and in between it draws exactly one
frame, with the panel or without as the tab key was pressed an even or an odd number of times (`Frames`).  The main
statement is `run_of_make`.
-/

namespace Aviary

/-- What happens to an open window. -/
inductive Moment where
  | event (event : Event)
  | frame

/-- The moments of a run: a frame is drawn after every batch of events but the one that closes the window. -/
def moments (before : List (List Event)) (closing : List Event) : List Moment :=
  before.flatMap (fun events => events.map .event ++ [.frame]) ++ closing.map .event

theorem moments_cons (events : List Event) (before : List (List Event)) (closing : List Event) :
    moments (events :: before) closing = (events.map .event ++ [.frame]) ++ moments before closing := by
  unfold moments
  rw [List.flatMap_cons, List.append_assoc]

namespace Window

/-- Whether the calls from one time that events are asked for to the next draw one frame: the window was given its size
last as the number of times says that the panel was hidden or shown, and the panel is drawn accordingly. -/
structure DrawsFrame (width height : Int) (panel : SurfaceId) (log : List Note) (tabs : Nat) (batch : List Note) :
    Prop where
  beats : batch.filter Note.isBeat = [.redraw, .flip, .tick]
  mode : Note.lastMode (log ++ batch) = some (width + if Even tabs then panelWidth else 0, height)
  panel_iff : .shown panel ∈ batch ↔ Even tabs

/-- Whether there is a frame for each batch of events and no other, after `log` was noted and the tab key was pressed
`tabs` times. -/
inductive Frames (width height : Int) (panel : SurfaceId) :
    List Note → Nat → List (List Event) → List (List (Call Number)) → Prop
  | nil {log : List Note} {tabs : Nat} : Frames width height panel log tabs [] []
  | cons {log : List Note} {tabs : Nat} {events : List Event} {before : List (List Event)} {calls : List (Call Number)}
      {frames : List (List (Call Number))}
      (head : DrawsFrame width height panel log (tabs + events.countP Event.toggles) (notes calls))
      (tail : Frames width height panel (log ++ notes calls) (tabs + events.countP Event.toggles) before frames) :
      Frames width height panel log tabs (events :: before) (calls :: frames)

private theorem Frames.length_eq {width height : Int} {panel : SurfaceId} {log : List Note} {tabs : Nat}
    {before : List (List Event)} {frames : List (List (Call Number))}
    (h : Frames width height panel log tabs before frames) : frames.length = before.length := by
  induction h with
  | nil => rfl
  | cons _ _ ih => rw [List.length_cons, List.length_cons, ih]

private theorem filter_isBeat_of_modes {modes : List Note} (h : ∀ note ∈ modes, ∃ a b, note = .mode a b) :
    modes.filter Note.isBeat = [] := by
  refine List.filter_eq_nil_iff.mpr fun note hnote => ?_
  obtain ⟨a, b, rfl⟩ := h note hnote
  exact Bool.false_ne_true

/-- The notes of a frame that shows some surfaces and then, unless it is hidden, the panel. -/
def frameNotes (others : List SurfaceId) (tabs : Nat) : List Note :=
  .redraw :: (others.map .shown ++ (if Even tabs then [.shown (.made 0)] else []) ++ [.flip, .tick])

private theorem mode?_of_mem_frameNotes (others : List SurfaceId) (tabs : Nat) :
    ∀ note ∈ frameNotes others tabs, note.mode? = none := by
  have hothers : ∀ note ∈ others.map Note.shown, note.mode? = none := by simp [Note.mode?]
  have hpanel : ∀ note ∈ (if Even tabs then [Note.shown (.made 0)] else []), note.mode? = none := by
    split <;> simp [Note.mode?]
  exact List.forall_mem_cons.mpr
    ⟨rfl, List.forall_mem_append.mpr ⟨List.forall_mem_append.mpr ⟨hothers, hpanel⟩, by simp [Note.mode?]⟩⟩

private theorem drawsFrame_of_notes {width height : Int} {log modes : List Note} {tabs : Nat} {others : List SurfaceId}
    (hmodes : ∀ note ∈ modes, ∃ a b, note = .mode a b) (hothers : .made 0 ∉ others)
    (hmode : Note.lastMode (log ++ modes) = some (width + if Even tabs then panelWidth else 0, height)) :
    DrawsFrame width height (.made 0) log tabs (modes ++ frameNotes others tabs) where
  beats := by
    have hquiet := filter_isBeat_of_modes hmodes
    have hshown : (others.map Note.shown).filter Note.isBeat = [] := by simp [Note.isBeat]
    rw [List.filter_append, hquiet]
    unfold frameNotes
    rw [List.nil_append, List.filter_cons_of_pos rfl, List.filter_append, List.filter_append, hshown]
    split <;> rfl
  mode := by
    rw [← List.append_assoc, Note.lastMode_append_of_none (mode?_of_mem_frameNotes others tabs)]
    exact hmode
  panel_iff := by
    have hquiet : .shown (.made 0) ∉ modes := by
      intro hmem
      obtain ⟨_, _, h⟩ := hmodes _ hmem
      cases h
    unfold frameNotes
    by_cases heven : Even tabs
    · simp [heven]
    · simp [heven, hquiet, hothers]

section Play

variable {E : Engine} [Memory] (font : Font) (time : Nat → Float)

/-- The window after a moment, and what is drawn in it.  A frame is flipped and waited for. -/
def live (w : Window E) : Moment → Window E × List (Call Number)
  | .event event => ((w.handle event).1, (w.handle event).2.calls)
  | .frame =>
    ((w.frame font (time w.timed)).1, (w.frame font (time w.timed)).2.calls ++ [.flip, .tick framesPerSecond])

/-- The window after some moments, and what is drawn in them. -/
def play (w : Window E) : List Moment → Window E × List (Call Number)
  | [] => (w, [])
  | moment :: rest =>
    ((play (w.live font time moment).1 rest).1,
      (w.live font time moment).2 ++ (play (w.live font time moment).1 rest).2)

/-- Whether no frame fails in the course of some moments. -/
def FramesPass (w : Window E) : List Moment → Prop
  | [] => True
  | .event event :: rest => FramesPass (w.handle event).1 rest
  | .frame :: rest =>
    (w.frame font (time w.timed)).2.fault = none ∧ FramesPass (w.frame font (time w.timed)).1 rest

/-- Whether the display starts up for a window and there is a canvas for it, so that it is opened. -/
def Opens (w opened : Window E) : Prop := w.start.fault = none ∧ ∃ call, w.build = .ok (opened, call)

variable {font time} {w : Window E} {width height : Int} {log : List Note} {tabs : Nat}

theorem play_append (w : Window E) (xs ys : List Moment) :
    w.play font time (xs ++ ys) =
      (((w.play font time xs).1.play font time ys).1,
        (w.play font time xs).2 ++ ((w.play font time xs).1.play font time ys).2) := by
  induction xs generalizing w with
  | nil => rfl
  | cons x xs ih =>
    rw [List.cons_append]
    simp only [play, ih, List.append_assoc]

/-! ### Batches of events -/

private theorem Opened.totalWidth_eq (h : w.Opened width height) :
    w.totalWidth = width + if w.panelShown then panelWidth else 0 := by
  unfold totalWidth
  rw [h.width_eq]

/-- What is known of an open window when `log` was noted and the tab key was pressed `tabs` times. -/
structure Tracks (width height : Int) (w : Window E) (log : List Note) (tabs : Nat) : Prop where
  opened : w.Opened width height
  shown_iff : w.panelShown = true ↔ Even tabs
  mode : Note.lastMode log = some (w.totalWidth, height)

private theorem Tracks.handle (h : w.Tracks width height log tabs) (event : Event) :
    (w.handle event).1.Tracks width height (log ++ notes (w.handle event).2.calls)
      (tabs + if event.toggles then 1 else 0) := by
  obtain ⟨hopened, -, hnotes⟩ := h.opened.handle event
  obtain ⟨_, _, _, _, _, hw, -⟩ := w.exists_handle_eq event
  have hwidth : (w.handle event).1.width = w.width := by rw [hw]
  have hshown : (w.handle event).1.panelShown = if event.toggles then !w.panelShown else w.panelShown := by rw [hw]
  rw [hnotes]
  refine ⟨hopened, ?_, ?_⟩
  · rw [hshown]
    have hiff := h.shown_iff
    cases event.toggles with
    | true => simp [Nat.even_add_one, ← hiff]
    | false => exact hiff
  · cases ht : event.toggles with
    | true => exact Note.lastMode_append _ _
    | false =>
      have htotal : (w.handle event).1.totalWidth = w.totalWidth := by simp [totalWidth, hwidth, hshown, ht]
      simpa [htotal] using h.mode

private theorem framesPass_append (w : Window E) (xs ys : List Moment) :
    w.FramesPass font time (xs ++ ys) ↔
      w.FramesPass font time xs ∧ (w.play font time xs).1.FramesPass font time ys := by
  induction xs generalizing w with
  | nil => simp [FramesPass, play]
  | cons x xs ih =>
    cases x with
    | event event => exact ih (w.handle event).1
    | frame => exact (and_congr_right fun _ => ih _).trans and_assoc.symm

private theorem running_play_events (w : Window E) (events : List Event) :
    (w.play font time (events.map .event)).1.running = (!events.any Event.closes && w.running) := by
  induction events generalizing w with
  | nil => rfl
  | cons event events ih =>
    obtain ⟨_, _, _, _, _, hw, -⟩ := w.exists_handle_eq event
    have hrunning : (w.handle event).1.running = if event.closes then false else w.running := by rw [hw]
    show ((w.handle event).1.play font time (events.map .event)).1.running = _
    rw [ih, hrunning]
    cases hc : event.closes <;> simp [hc]

variable (font time) in
private theorem Tracks.play_events (h : w.Tracks width height log tabs) (events : List Event) :
    (w.play font time (events.map .event)).1.Tracks width height
      (log ++ notes (w.play font time (events.map .event)).2) (tabs + events.countP Event.toggles) := by
  induction events generalizing w log tabs with
  | nil => simpa [play] using h
  | cons event events ih =>
    have hrest := ih (h.handle event)
    rw [List.countP_cons, Nat.add_comm (events.countP _), ← Nat.add_assoc]
    rw [List.append_assoc, ← notes_append] at hrest
    exact hrest

variable (font time) in
/-- Draining events is playing them. -/
theorem Opened.drain_eq (h : w.Opened width height) (events : List Event) :
    w.drain events = ((w.play font time (events.map .event)).1, .emit (w.play font time (events.map .event)).2) := by
  induction events generalizing w with
  | nil => rfl
  | cons event events ih =>
    obtain ⟨hopened, hfault, -⟩ := h.handle event
    have hfirst : (w.handle event).2 = .emit (w.handle event).2.calls := by
      unfold Picture.emit
      rw [← hfault]
    unfold drain
    dsimp only
    rw [hfault, ih hopened, hfirst]
    rfl

variable (font time) in
/-- Of events only the sizes of the window are noted. -/
private theorem Opened.notes_play_events (h : w.Opened width height) (events : List Event) :
    ∀ note ∈ notes (w.play font time (events.map .event)).2, ∃ a b, note = .mode a b := by
  induction events generalizing w with
  | nil => exact List.forall_mem_nil _
  | cons event events ih =>
    obtain ⟨hopened, -, hnotes⟩ := h.handle event
    show ∀ note ∈ notes ((w.handle event).2.calls ++ ((w.handle event).1.play font time (events.map .event)).2), _
    rw [notes_append, hnotes]
    refine List.forall_mem_append.mpr ⟨?_, ih hopened⟩
    split
    · simp
    · simp

/-! ### Batches with a frame -/

/-- What a frame that is drawn to its end does to an open window, and what is noted of it. -/
private theorem Tracks.live_frame (h : w.Tracks width height log tabs)
    (hf : (w.frame font (time w.timed)).2.fault = none) :
    (w.live font time .frame).1.Tracks width height (log ++ notes (w.live font time .frame).2) tabs ∧
      (w.live font time .frame).1.running = w.running ∧
      ∃ others : List SurfaceId, .made 0 ∉ others ∧ notes (w.live font time .frame).2 = frameNotes others tabs := by
  obtain ⟨hopened, hrunning, hshown, others, hothers, hnotes⟩ := h.opened.frame hf
  have hiff := h.shown_iff
  have hlive : notes (w.live font time .frame).2 = frameNotes others tabs := by
    show notes (_ ++ _) = _
    rw [notes_append, hnotes]
    simp only [hiff]
    rfl
  refine ⟨⟨hopened, ?_, ?_⟩, hrunning, others, hothers, hlive⟩
  · show (w.frame font (time w.timed)).1.panelShown = true ↔ _
    rw [hshown]
    exact hiff
  · have htotal : (w.live font time .frame).1.totalWidth = w.totalWidth := by
      show (w.frame font (time w.timed)).1.totalWidth = _
      rw [hopened.totalWidth_eq, hshown, ← h.opened.totalWidth_eq]
    rw [htotal, hlive, Note.lastMode_append_of_none (mode?_of_mem_frameNotes others tabs)]
    exact h.mode

theorem play_batch (w : Window E) (events : List Event) :
    w.play font time (events.map .event ++ [.frame]) =
      let drained := w.play font time (events.map .event)
      ((drained.1.live font time .frame).1, drained.2 ++ (drained.1.live font time .frame).2) := by
  rw [play_append]
  simp only [play, List.append_nil]

/-- After a batch of events one frame is drawn. -/
private theorem Tracks.batch (h : w.Tracks width height log tabs) {events : List Event}
    (hf : ((w.play font time (events.map .event)).1.frame font
      (time (w.play font time (events.map .event)).1.timed)).2.fault = none) :
    let next := w.play font time (events.map .event ++ [.frame])
    DrawsFrame width height (.made 0) log (tabs + events.countP Event.toggles) (notes next.2) ∧
      next.1.Tracks width height (log ++ notes next.2) (tabs + events.countP Event.toggles) ∧
      next.1.running = (w.play font time (events.map .event)).1.running := by
  intro next
  have hmodes := h.opened.notes_play_events font time events
  have hdrained := h.play_events font time events
  obtain ⟨htracks, hrunning, others, hothers, hnotes⟩ := hdrained.live_frame hf
  have hnext : next = _ := play_batch w events
  rw [hnext]
  refine ⟨?_, ?_, hrunning⟩
  · rw [notes_append, hnotes]
    refine drawsFrame_of_notes hmodes hothers ?_
    rw [hdrained.mode, hdrained.opened.totalWidth_eq]
    simp only [hdrained.shown_iff]
  · rw [notes_append, ← List.append_assoc]
    exact htracks

/-! ### Runs -/

/-- After events that do not close the window, a run draws a frame and goes on. -/
theorem loop_cons {w drained : Window E} {events : List Event} {calls : List (Call Number)}
    (rest : List (List Event)) (hdrain : w.drain events = (drained, .emit calls)) (hgo : drained.running = true)
    (hf : (drained.frame font (time drained.timed)).2.fault = none) :
    loop font time w (events :: rest) =
      let run := loop font time (drained.live font time .frame).1 rest
      { run with batches := (calls ++ (drained.live font time .frame).2) :: run.batches } := by
  have hpicture : ((Picture.emit calls).andThen (drained.frame font (time drained.timed)).2).fault = none :=
    Picture.fault_andThen.mpr ⟨rfl, hf⟩
  rw [loop, hdrain]
  dsimp only
  rw [hgo, if_neg (by simp [Picture.emit]), if_neg (by simp), if_neg (by simp [hpicture])]
  show Run.mk (((calls ++ (drained.frame font (time drained.timed)).2.calls) ++ [.flip, .tick framesPerSecond]) :: _)
    _ _ = _
  rw [List.append_assoc]
  rfl

/-- From an open window on, a run plays the moments up to the batch of events that closes the window and then quits. -/
theorem loop_eq (h : w.Tracks width height log tabs) (hr : w.running = true) {before : List (List Event)}
    {closing : List Event} (after : List (List Event))
    (hbefore : ∀ events ∈ before, ∀ event ∈ events, event.closes = false)
    (hclosing : ∃ event ∈ closing, event.closes = true)
    (hpass : w.FramesPass font time (moments before closing)) :
    ∃ frames last,
      loop font time w (before ++ closing :: after) =
        ⟨frames ++ [last], none, (w.play font time (moments before closing)).1⟩ ∧
      frames.flatten ++ last = (w.play font time (moments before closing)).2 ++ [.quit] ∧
      Frames width height (.made 0) log tabs before frames ∧ (notes last).filter Note.isBeat = [.quit] := by
  -- what was noted so far and how often the tab key was pressed are carried from batch to batch
  induction before generalizing w log tabs with
  | nil =>
    have hstop : (w.play font time (closing.map .event)).1.running = false := by
      have hany : closing.any Event.closes = true := List.any_eq_true.mpr hclosing
      rw [running_play_events, hany]
      rfl
    have hquiet := filter_isBeat_of_modes (h.opened.notes_play_events font time closing)
    refine ⟨[], (w.play font time (closing.map .event)).2 ++ [.quit], ?_, rfl, .nil, ?_⟩
    · rw [List.nil_append]
      unfold loop
      rw [h.opened.drain_eq font time]
      dsimp only
      rw [hstop]
      rfl
    · rw [notes_append, List.filter_append, hquiet]
      rfl
  | cons events before ih =>
    obtain ⟨hevents, hrest⟩ := List.forall_mem_cons.mp hbefore
    rw [moments_cons, framesPass_append] at hpass
    obtain ⟨hbatch, hpass⟩ := hpass
    obtain ⟨-, hf, -⟩ := (framesPass_append w _ _).mp hbatch
    obtain ⟨hdraws, htracks, hrunning⟩ := h.batch hf
    have hgo : (w.play font time (events.map .event)).1.running = true := by
      have hany : events.any Event.closes = false := List.any_eq_false.mpr (by simpa using hevents)
      rw [running_play_events, hany, hr]
      rfl
    obtain ⟨frames, last, hloop, hflat, hframes, hlast⟩ := ih htracks (hrunning.trans hgo) hrest hpass
    refine ⟨(w.play font time (events.map .event ++ [.frame])).2 :: frames, last, ?_, ?_, .cons hdraws hframes, hlast⟩
    · have hstep := loop_cons (before ++ closing :: after) (h.opened.drain_eq font time events) hgo hf
      rw [play_batch] at hloop
      rw [List.cons_append, hstep, hloop, moments_cons, play_append w (events.map Moment.event ++ [Moment.frame]),
        play_batch]
      rfl
    · rw [moments_cons, play_append w (events.map Moment.event ++ [Moment.frame]), List.append_assoc, ← hflat,
        List.flatten_cons, List.append_assoc]

private theorem fault_start_iff : w.start.fault = none ↔ ∃ size, Surface.size w.totalWidth w.height = .ok size := by
  unfold start setMode
  rw [Picture.fault_andThen, Picture.fault_emit_andThen, Picture.fault_emit_andThen, Picture.fault_ofExcept]
  simp [Picture.emit, Picture.done]

private theorem exists_build_iff : (∃ made, w.build = .ok made) ↔ ∃ size, Surface.size w.width w.height = .ok size := by
  unfold build Surface.make
  cases Surface.size w.width w.height with
  | error fault => exact iff_of_false (by rintro ⟨_, h⟩; cases h) (by rintro ⟨_, h⟩; cases h)
  | ok size => exact iff_of_true ⟨_, rfl⟩ ⟨_, rfl⟩

private theorem size_of_start (h : w.start.fault = none) :
    (∃ size, Surface.size w.totalWidth w.height = .ok size) ∧ notes w.start.calls = [.mode w.totalWidth w.height] := by
  obtain ⟨size, hsize⟩ := fault_start_iff.mp h
  refine ⟨⟨size, hsize⟩, ?_⟩
  unfold start setMode
  rw [hsize]
  rfl

private theorem eq_of_build {opened : Window E} {call : Call Number} (h : w.build = .ok (opened, call)) :
    (∃ size, Surface.size w.width w.height = .ok size) ∧ notes [call] = [] ∧
      ∃ canvas : Surface, canvas.id = .made w.surfaces ∧
        opened = { w with renderer := some ⟨canvas, none⟩, surfaces := w.surfaces + 1 } := by
  obtain ⟨⟨canvas, made⟩, hcanvas, heq⟩ := Fault.bind_eq_ok_iff.mp h
  obtain ⟨size, hsize, hcanvas⟩ := Fault.bind_eq_ok_iff.mp hcanvas
  obtain ⟨rfl, rfl⟩ := Prod.mk.inj (Except.ok.inj hcanvas)
  obtain ⟨rfl, rfl⟩ := Prod.mk.inj (Except.ok.inj heq)
  exact ⟨⟨size, hsize⟩, rfl, _, rfl, rfl⟩

/-- A window that is opened has the size that it was made with, and its panel is shown. -/
theorem tracks_of_opens {scenario : Option String} {call call' : Call Number} {opened : Window E}
    (hw : make E width height scenario = .ok (w, call)) (hstart : w.start.fault = none)
    (hbuild : w.build = .ok (opened, call')) :
    opened.running = true ∧ opened.Tracks width height (notes (w.start.calls ++ [call'])) 0 ∧
      notes (w.start.calls ++ [call']) = [.mode (width + panelWidth) height] := by
  obtain ⟨hwidth, hheight, htotal, hshown, hrunning, hpanel, hsurface, hmade⟩ :
      w.width = width ∧ w.height = height ∧ w.totalWidth = width + panelWidth ∧ w.panelShown = true ∧
        w.running = true ∧ w.panel.height = height ∧ w.panel.surface = .made 0 ∧ w.surfaces = 1 := by
    obtain ⟨session, -, rfl⟩ := eq_of_make hw
    exact ⟨rfl, rfl, rfl, rfl, rfl, rfl, rfl, rfl⟩
  obtain ⟨hwide, hmode⟩ := size_of_start hstart
  obtain ⟨hnarrow, hcall, canvas, hid, rfl⟩ := eq_of_build hbuild
  rw [htotal, hheight] at hwide hmode
  rw [hwidth, hheight] at hnarrow
  rw [hmade] at hid
  have hnotes : notes (w.start.calls ++ [call']) = [.mode (width + panelWidth) height] := by
    rw [notes_append, hmode, hcall]
    rfl
  have hopened : Opened width height { w with renderer := some ⟨canvas, none⟩, surfaces := w.surfaces + 1 } :=
    ⟨hwidth, hheight, hpanel, hsurface, ⟨canvas, none, rfl, hid⟩, by simp [hmade], hwide, hnarrow⟩
  refine ⟨hrunning, ⟨hopened, by simp [hshown], ?_⟩, hnotes⟩
  rw [hnotes, hopened.totalWidth_eq]
  simp [hshown, Note.lastMode, Note.mode?]

theorem run_eq {opened : Window E} {call : Call Number} (events : List (List Event))
    (hstart : w.start.fault = none) (hbuild : w.build = .ok (opened, call)) (hr : opened.running = true) :
    w.run font time events =
      let run := loop font time opened events
      { run with batches := (w.start.calls ++ [call]) :: run.batches } := by
  unfold run
  rw [hbuild, if_neg (by simp [hstart])]
  dsimp only
  rw [if_pos hr, Picture.calls_andThen _ hstart]
  rfl

private theorem length_loop_pos (w : Window E) (batches : List (List Event)) :
    0 < (loop font time w batches).batches.length := by
  cases batches with
  | nil => exact Nat.zero_lt_one
  | cons events rest =>
    unfold loop
    dsimp only
    split
    · exact Nat.zero_lt_one
    · split
      · exact Nat.zero_lt_one
      · split
        · exact Nat.zero_lt_one
        · exact Nat.succ_pos _

/-- Events are asked for if and only if the window is opened. -/
theorem asks_iff {scenario : Option String} {call : Call Number}
    (hw : make E width height scenario = .ok (w, call)) (events : List (List Event)) :
    (∃ opened, w.Opens opened) ↔ 1 < (w.run font time events).batches.length := by
  constructor
  · rintro ⟨opened, hstart, call', hbuild⟩
    obtain ⟨hr, -, -⟩ := tracks_of_opens hw hstart hbuild
    rw [run_eq events hstart hbuild hr]
    exact Nat.succ_lt_succ (length_loop_pos opened events)
  · intro h
    unfold run at h
    split at h
    · exact absurd h (lt_irrefl 1)
    · rename_i hstart
      have hstart : w.start.fault = none := by simpa using hstart
      cases hbuild : w.build with
      | error fault =>
        rw [hbuild] at h
        exact absurd h (lt_irrefl 1)
      | ok made => exact ⟨made.1, hstart, made.2, hbuild⟩

/-- No frame fails where there is none. -/
private theorem framesPass_events (w : Window E) (events : List Event) :
    w.FramesPass font time (events.map .event) := by
  induction events generalizing w with
  | nil => trivial
  | cons event events ih => exact ih (w.handle event).1

/-- A loop whose first batch of events closes the window draws nothing more and quits. -/
private theorem fault_loop_of_closes (h : w.Tracks width height log tabs) (hr : w.running = true)
    {batches : List (List Event)} (hclose : ∀ first ∈ batches.head?, ∃ event ∈ first, event.closes = true) :
    (loop font time w batches).fault = none := by
  cases batches with
  | nil =>
    unfold loop
    rw [h.opened.drain_eq font time]
    rfl
  | cons closing after =>
    have hbefore : ∀ events ∈ ([] : List (List Event)), ∀ event ∈ events, event.closes = false :=
      List.forall_mem_nil _
    obtain ⟨frames, last, hloop, -⟩ := loop_eq h hr after hbefore (hclose closing rfl) (framesPass_events w closing)
    rw [List.nil_append] at hloop
    rw [hloop]

/-- If its first batch of events closes it, a window that was just made is run without a fault if and only if there are
surfaces of its size with the panel and without. -/
theorem fault_run_iff {scenario : Option String} {call : Call Number}
    (hw : make E width height scenario = .ok (w, call)) {events : List (List Event)}
    (hclose : ∀ first ∈ events.head?, ∃ event ∈ first, event.closes = true) :
    (w.run font time events).fault = none ↔
      (∃ size, Surface.size (width + panelWidth) height = .ok size) ∧ ∃ size, Surface.size width height = .ok size := by
  obtain ⟨hwidth, hheight, htotal⟩ : w.width = width ∧ w.height = height ∧ w.totalWidth = width + panelWidth := by
    obtain ⟨session, -, rfl⟩ := eq_of_make hw
    exact ⟨rfl, rfl, rfl⟩
  rw [← htotal, ← hwidth, ← hheight, ← fault_start_iff, ← exists_build_iff]
  constructor
  · intro h
    unfold run at h
    split at h
    · rename_i hstart
      rw [show w.start.fault = none from h] at hstart
      cases hstart
    · rename_i hstart
      refine ⟨by simpa using hstart, ?_⟩
      split at h
      · cases (Picture.fault_andThen.mp h).2
      · rename_i made hbuild
        exact ⟨_, hbuild⟩
  · rintro ⟨hstart, ⟨opened, call'⟩, hbuild⟩
    obtain ⟨hr, htracks, -⟩ := tracks_of_opens hw hstart hbuild
    rw [run_eq events hstart hbuild hr]
    exact fault_loop_of_closes htracks hr hclose

/-- A window that was just made asks for events if and only if it is opened.  If then no frame fails, it plays the
moments up to the batch of events that closes it, each event once and in order, and quits: it draws one frame after
each batch before, asks for no more events, and shows the panel in a frame if and only if the tab key was pressed an
even number of times before. -/
theorem run_of_make {scenario : Option String} {call : Call Number} (hw : make E width height scenario = .ok (w, call))
    (font : Font) (time : Nat → Float) {before : List (List Event)} {closing : List Event} (after : List (List Event))
    (hbefore : ∀ events ∈ before, ∀ event ∈ events, event.closes = false)
    (hclosing : ∃ event ∈ closing, event.closes = true) :
    ((∃ opened, w.Opens opened) ↔ 1 < (w.run font time (before ++ closing :: after)).batches.length) ∧
      ∀ opened, w.Opens opened → opened.FramesPass font time (moments before closing) →
        ∃ opening frames last,
          w.run font time (before ++ closing :: after) =
            ⟨opening :: (frames ++ [last]), none, (opened.play font time (moments before closing)).1⟩ ∧
          frames.flatten ++ last = (opened.play font time (moments before closing)).2 ++ [.quit] ∧
          frames.length = before.length ∧
          (notes opening).filter Note.isBeat = [] ∧
          Frames width height w.panel.surface (notes opening) 0 before frames ∧
          (notes last).filter Note.isBeat = [.quit] := by
  have hsurface : w.panel.surface = .made 0 := by
    obtain ⟨session, -, rfl⟩ := eq_of_make hw
    rfl
  refine ⟨asks_iff hw _, ?_⟩
  rintro opened ⟨hstart, call', hbuild⟩ hpass
  obtain ⟨hr, htracks, hopening⟩ := tracks_of_opens hw hstart hbuild
  obtain ⟨frames, last, hloop, hflat, hframes, hlast⟩ := loop_eq htracks hr after hbefore hclosing hpass
  rw [run_eq _ hstart hbuild hr, hloop, hsurface]
  refine ⟨_, frames, last, rfl, hflat, hframes.length_eq, ?_, hframes, hlast⟩
  rw [hopening]
  rfl

end Play

/-- A script for a world without animals and food. -/
def wasteland : Engine.Script where
  defaults := Config.ofList [("food_size", .real 0.01)]
  world := ⟨[], []⟩
  builds := []
  steps := []
  trainings := []

/-- The panel is hidden in the first frame and shown again in the second; the events behind the escape key are handled,
and the ones of the next batch are not asked for. -/
theorem run_of_make_wasteland :
    let before : List (List Event) := [[.keyDown .tab, .text "p"], [.keyDown .tab, .text "p", .keyDown .enter]]
    let closing : List Event := [.keyDown .escape, .text "t", .quit]
    ∃ w call opened, make (Engine.scripted wasteland) 800 600 none = .ok (w, call) ∧
      (∀ events ∈ before, ∀ event ∈ events, event.closes = false) ∧ (∃ event ∈ closing, event.closes = true) ∧
      w.Opens opened ∧ opened.FramesPass ⟨16, 8⟩ (fun _ => 0.0) (moments before closing) ∧
      1 < (w.run ⟨16, 8⟩ (fun _ => 0.0) (before ++ closing :: [[.quit]])).batches.length ∧
      ∃ opening frames last,
        w.run ⟨16, 8⟩ (fun _ => 0.0) (before ++ closing :: [[.quit]]) =
          ⟨opening :: (frames ++ [last]), none,
            (opened.play ⟨16, 8⟩ (fun _ => 0.0) (moments before closing)).1⟩ ∧
        frames.length = 2 ∧ Frames 800 600 w.panel.surface (notes opening) 0 before frames ∧
        (notes last).filter Note.isBeat = [.quit] := by
  intro before closing
  have hbefore : ∀ events ∈ before, ∀ event ∈ events, event.closes = false := by decide
  have hclosing : ∃ event ∈ closing, event.closes = true := by decide
  refine ⟨_, _, _, rfl, hbefore, hclosing, ⟨rfl, _, rfl⟩, ⟨rfl, rfl, trivial⟩, ?_⟩
  have hw : make (Engine.scripted wasteland) 800 600 none = .ok (_, _) := rfl
  obtain ⟨hasks, hrun⟩ := run_of_make hw ⟨16, 8⟩ (fun _ => 0.0) [[.quit]] hbefore hclosing
  obtain ⟨opening, frames, last, heq, -, hlength, -, hframes, hlast⟩ := hrun _ ⟨rfl, _, rfl⟩ ⟨rfl, rfl, trivial⟩
  exact ⟨hasks.mp ⟨_, rfl, _, rfl⟩, opening, frames, last, heq, hlength, hframes, hlast⟩

end Window

end Aviary
