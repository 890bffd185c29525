import Aviary.Proofs.Window

/-!
# Who gets an event

Of the events that a window drains, the panel gets those that arrive while it is shown and are not for the window
itself (`reaching`), in order and with the same effect as if it were handed nothing else: every event leaves a window
that has the session and the panel of one to which only these events are handed (`Matches.handle`).  The main statement
is `drain_routes`.
-/

namespace Aviary

/-- Whether an event is for the window itself: it is to be closed, or one of its own keys is pressed. -/
def Event.isForWindow : Event → Bool
  | .quit | .keyDown .escape | .keyDown .tab | .keyDown .f1 => true
  | _ => false

namespace Window

variable {E : Engine} {v w : Window E} {event : Event}

/-- Events, each with whether the panel is shown when it arrives; `shown` says whether it is shown at first. -/
def arrivals (shown : Bool) : List Event → List (Event × Bool)
  | [] => []
  | event :: events => (event, shown) :: arrivals (if event.toggles then !shown else shown) events

/-- The events that reach the panel. -/
def reaching (shown : Bool) (events : List Event) : List Event :=
  ((arrivals shown events).filter fun arrival => arrival.2 && !arrival.1.isForWindow).map (·.1)

/-- Whether two windows have the same session and the same panel. -/
structure Matches (v w : Window E) : Prop where
  session_eq : v.session = w.session
  panel_eq : v.panel = w.panel

/-- Why the window cannot get the size that it has with the panel shown or hidden, if it cannot. -/
def refused [Memory] (w : Window E) (shown : Bool) : Option Fault :=
  match Surface.size (w.width + if shown then panelWidth else 0) w.height with
  | .ok _ => none
  | .error fault => some fault

private theorem reaching_cons (shown : Bool) (event : Event) (events : List Event) :
    reaching shown (event :: events) =
      (if shown && !event.isForWindow then [event] else []) ++
        reaching (if event.toggles then !shown else shown) events := by
  have harrivals : arrivals shown (event :: events) =
      (event, shown) :: arrivals (if event.toggles then !shown else shown) events := rfl
  unfold reaching
  rw [harrivals, List.filter_cons]
  split
  · rfl
  · rfl

private theorem reaching_append (shown : Bool) (xs ys : List Event) :
    ∃ shown', reaching shown (xs ++ ys) = reaching shown xs ++ reaching shown' ys := by
  induction xs generalizing shown with
  | nil => exact ⟨shown, rfl⟩
  | cons x xs ih =>
    obtain ⟨shown', hxs⟩ := ih (if x.toggles then !shown else shown)
    refine ⟨shown', ?_⟩
    rw [List.cons_append, reaching_cons, hxs, reaching_cons, List.append_assoc]

/-- If nothing of some events reaches the panel, nothing of the first of them does. -/
private theorem reaching_eq_nil_of_append {shown : Bool} {xs ys : List Event} (h : reaching shown (xs ++ ys) = []) :
    reaching shown xs = [] := by
  obtain ⟨_, happend⟩ := reaching_append shown xs ys
  rw [happend] at h
  exact (List.append_eq_nil_iff.mp h).1

/-- Nothing reaches a panel that stays hidden. -/
private theorem reaching_of_hidden {events : List Event} (h : ∀ event ∈ events, event.toggles = false) :
    reaching false events = [] := by
  induction events with
  | nil => rfl
  | cons event events ih =>
    obtain ⟨hevent, hevents⟩ := List.forall_mem_cons.mp h
    rw [reaching_cons, hevent]
    exact ih hevents

/-- Nothing reaches a panel that is hidden and shown again. -/
private theorem reaching_of_hidden_and_shown {events : List Event} (h : ∀ event ∈ events, event.toggles = false) :
    reaching true (.keyDown .tab :: events ++ [.keyDown .tab]) = [] := by
  rw [List.cons_append, reaching_cons]
  show reaching false (events ++ [.keyDown .tab]) = []
  obtain ⟨shown, happend⟩ := reaching_append false events [.keyDown .tab]
  rw [happend, reaching_of_hidden h, reaching_cons]
  cases shown <;> rfl

/-! ### One event -/

/-- What the panel makes of an event depends on the session and the panel only. -/
private theorem Matches.handlePanel (h : v.Matches w) (event : Event) :
    (v.handlePanel event).1.Matches (w.handlePanel event).1 := by
  unfold Window.handlePanel
  rw [h.panel_eq]
  dsimp only
  split
  · unfold enter print
    rw [h.session_eq]
    exact ⟨rfl, rfl⟩
  · exact ⟨h.session_eq, rfl⟩

section Draining

variable [Memory]

/-- An event for the window leaves the session and the panel as they are. -/
private theorem matches_of_isForWindow (w : Window E) (h : event.isForWindow = true) :
    (w.handle event).1.Matches w := by
  cases event with
  | quit => exact ⟨rfl, rfl⟩
  | keyDown key =>
    cases key with
    | escape | tab | f1 => exact ⟨rfl, rfl⟩
    | enter | keypadEnter | backspace | pageUp | pageDown | other => cases h
  | text | keyUp | wheel | motion => cases h

private theorem handle_eq_of_not_isForWindow (w : Window E) (h : event.isForWindow = false) :
    w.handle event = (w.handleIfShown event, .done) := by
  cases event with
  | quit => cases h
  | keyDown key =>
    cases key with
    | escape | tab | f1 => cases h
    | enter | keypadEnter | backspace | pageUp | pageDown | other => rfl
  | text | keyUp | wheel | motion => rfl

/-- A window that is handed what reaches the panel keeps up with one that handles an event. -/
theorem Matches.handle (h : v.Matches w) (event : Event) :
    (v.press (if w.panelShown && !event.isForWindow then [event] else [])).Matches (w.handle event).1 := by
  cases hfor : event.isForWindow with
  | true =>
    have hkept := w.matches_of_isForWindow hfor
    rw [Bool.not_true, Bool.and_false]
    exact ⟨h.session_eq.trans hkept.session_eq.symm, h.panel_eq.trans hkept.panel_eq.symm⟩
  | false =>
    rw [w.handle_eq_of_not_isForWindow hfor]
    unfold handleIfShown
    cases w.panelShown with
    | true => exact h.handlePanel event
    | false => exact h

private theorem frame_handle (w : Window E) (event : Event) :
    (w.handle event).1.width = w.width ∧ (w.handle event).1.height = w.height ∧
      (w.handle event).1.panelShown = if event.toggles then !w.panelShown else w.panelShown := by
  obtain ⟨_, _, _, _, _, hw, -⟩ := w.exists_handle_eq event
  rw [hw]
  exact ⟨rfl, rfl, rfl⟩

/-- The only event that can fail is the tab key: it does if the window cannot get its size. -/
private theorem eq_tab_of_fault (w : Window E) {fault : Fault} (h : (w.handle event).2.fault = some fault) :
    event = .keyDown .tab ∧ w.refused (w.handle event).1.panelShown = some fault := by
  obtain ⟨_, _, _, _, _, -, hpicture⟩ := w.exists_handle_eq event
  obtain ⟨hwidth, hheight, -⟩ := w.frame_handle event
  rw [hpicture] at h
  cases htab : event.toggles with
  | false =>
    rw [htab] at h
    cases h
  | true =>
    rw [htab, if_pos rfl] at h
    refine ⟨?_, ?_⟩
    · cases event with
      | keyDown key =>
        cases key with
        | tab => rfl
        | enter | keypadEnter | backspace | pageUp | pageDown | escape | f1 | other => cases htab
      | text | keyUp | wheel | motion | quit => cases htab
    · unfold refused
      rw [← hwidth, ← hheight]
      unfold setMode totalWidth at h
      cases hsize : Surface.size ((w.handle event).1.width + if (w.handle event).1.panelShown then panelWidth else 0)
        (w.handle event).1.height with
      | ok size =>
        rw [hsize] at h
        cases h
      | error fault' =>
        rw [hsize] at h
        exact h

/-! ### All events -/

private theorem drain_cons_of_fault {fault : Fault} (h : (w.handle event).2.fault = some fault)
    (events : List Event) : w.drain (event :: events) = w.handle event := by
  rw [drain]
  dsimp only
  rw [h]

private theorem drain_cons (h : (w.handle event).2.fault = none) (events : List Event) :
    w.drain (event :: events) = (((w.handle event).1.drain events).1,
      (w.handle event).2.andThen ((w.handle event).1.drain events).2) := by
  rw [drain]
  dsimp only
  rw [h]

/-- Draining events is handing the panel what reaches it, up to a tab key for which the window cannot get its size. -/
private theorem Matches.drain (h : v.Matches w) (events : List Event) :
    ∃ handled rest, events = handled ++ rest ∧ (v.press (reaching w.panelShown handled)).Matches (w.drain events).1 ∧
      ((w.drain events).2.fault = none ∧ rest = [] ∨
        ∃ before fault, handled = before ++ [.keyDown .tab] ∧ (w.drain events).2.fault = some fault ∧
          w.refused (w.drain events).1.panelShown = some fault) := by
  induction events generalizing v w with
  | nil => exact ⟨[], [], rfl, h, .inl ⟨rfl, rfl⟩⟩
  | cons event events ih =>
    have hfirst := h.handle event
    obtain ⟨hwidth, hheight, hshown⟩ := w.frame_handle event
    cases hf : (w.handle event).2.fault with
    | some fault =>
      obtain ⟨rfl, hrefused⟩ := w.eq_tab_of_fault hf
      rw [drain_cons_of_fault hf]
      refine ⟨[.keyDown .tab], events, rfl, ?_, .inr ⟨[], fault, rfl, hf, hrefused⟩⟩
      rw [reaching_cons, press_append]
      exact hfirst
    | none =>
      obtain ⟨handled, rest, rfl, hmatches, hend⟩ := ih hfirst
      rw [drain_cons hf]
      refine ⟨event :: handled, rest, rfl, ?_, ?_⟩
      · rw [reaching_cons, press_append, ← hshown]
        exact hmatches
      · have hfault : ((w.handle event).2.andThen ((w.handle event).1.drain (handled ++ rest)).2).fault =
            ((w.handle event).1.drain (handled ++ rest)).2.fault := by
          unfold Picture.andThen
          rw [hf]
        dsimp only
        rw [hfault]
        rcases hend with hend | ⟨before, fault, rfl, hend, hrefused⟩
        · exact .inl hend
        · refine .inr ⟨event :: before, fault, rfl, hend, ?_⟩
          unfold refused at hrefused ⊢
          rw [← hwidth, ← hheight]
          exact hrefused

/-- Events of which nothing reaches the panel leave the session and the panel as they are. -/
private theorem drain_matches_of_reaching_eq_nil {events : List Event} (h : reaching w.panelShown events = []) :
    (w.drain events).1.Matches w := by
  have hself : w.Matches w := ⟨rfl, rfl⟩
  obtain ⟨handled, rest, rfl, hmatches, -⟩ := hself.drain events
  rw [reaching_eq_nil_of_append h] at hmatches
  exact ⟨hmatches.session_eq.symm, hmatches.panel_eq.symm⟩

/-- What events do to the session and the panel of a window is what those do that reach the panel.  No event fails but
a tab key for which the window cannot get its size, and nothing behind it is handled.  What happens while the panel is
hidden changes neither the session nor the panel, so that a line typed in part is there when the panel is shown
again. -/
theorem drain_routes (w : Window E) (events : List Event) :
    (∃ handled rest, events = handled ++ rest ∧
      (w.press (reaching w.panelShown handled)).Matches (w.drain events).1 ∧
      ((w.drain events).2.fault = none ∧ rest = [] ∨
        ∃ before fault, handled = before ++ [.keyDown .tab] ∧ (w.drain events).2.fault = some fault ∧
          w.refused (w.drain events).1.panelShown = some fault)) ∧
    ((∀ event ∈ events, event.toggles = false) →
      (w.panelShown = false → (w.drain events).1.Matches w) ∧
      (w.panelShown = true → (w.drain (.keyDown .tab :: events ++ [.keyDown .tab])).1.Matches w)) := by
  have hself : w.Matches w := ⟨rfl, rfl⟩
  refine ⟨hself.drain events, fun hevents => ⟨fun hhidden => ?_, fun hshown => ?_⟩⟩
  · refine drain_matches_of_reaching_eq_nil ?_
    rw [hhidden]
    exact reaching_of_hidden hevents
  · refine drain_matches_of_reaching_eq_nil ?_
    rw [hshown]
    exact reaching_of_hidden_and_shown hevents

end Draining

/-- A command is typed in two parts, and what is typed in between is lost with the panel hidden. -/
theorem drain_routes_tired :
    let events : List Event :=
      [.text "tr", .keyDown .tab, .text "ash", .keyDown .enter, .quit, .keyDown .tab, .text "ain", .keyDown .f1,
        .keyDown .enter]
    ∃ handled rest, events = handled ++ rest ∧
      (tired.press (reaching true handled)).Matches (tired.drain events).1 ∧
      (tired.drain events).2.fault = none ∧ rest = [] ∧
      (tired.drain events).1.panel.lines = [some "welcome", some "", some "$ train", some "generation 2"] := by
  intro events
  obtain ⟨⟨handled, rest, hevents, hmatches, hend⟩, -⟩ := drain_routes tired events
  have hdrain : (tired.drain events).2.fault = none ∧
      (tired.drain events).1.panel.lines = [some "welcome", some "", some "$ train", some "generation 2"] := by
    decide +kernel
  rcases hend with ⟨hfault, hrest⟩ | ⟨_, _, _, hfault, -⟩
  · exact ⟨handled, rest, hevents, hmatches, hfault, hrest, hdrain.2⟩
  · cases hdrain.1.symm.trans hfault

end Window

end Aviary
