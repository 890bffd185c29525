import Aviary.Engine.Scripted
import Aviary.Stream
import Aviary.Window

/-!
# Typing and feeding

A line can be typed into the panel of a window, piece by piece and with corrections, or it can be fed to a session as
the text that these edits come to (`Submission.text`).  The panel hands over the same line in either case, if it hands
over one (`Panel.handle_submits`), so a window and a session whose lines go to a stream stay in step with each other
(`Agrees.take`).  The main statement is `agrees_turns`.
-/

namespace Aviary

/-- Whether a key submits the line of input. -/
def Key.submits : Key → Bool
  | .enter | .keypadEnter => true
  | _ => false

def Event.submits : Event → Bool
  | .keyDown key => key.submits
  | _ => false

/-- What an event makes of the text typed so far. -/
def Event.edit (text : List Char) : Event → List Char
  | .text typed => text ++ typed.toList
  | .keyDown .backspace => text.dropLast
  | _ => text

/-- What is typed for one line: any events that do not submit it, and a key that does. -/
structure Submission where
  edits : List Event
  key : Key
  edits_open : ∀ event ∈ edits, event.submits = false
  key_submits : key.submits = true

namespace Submission

def events (s : Submission) : List Event := s.edits ++ [.keyDown s.key]

/-- The text that the edits of an empty line come to. -/
def text (s : Submission) : String := String.ofList (s.edits.foldl Event.edit [])

end Submission

/-- One thing that is done to a session: a line is typed, or a frame passes. -/
inductive Turn where
  | typed (s : Submission)
  | redraw

/-- A session whose lines go to a stream. -/
structure Fed (E : Engine) where
  session : Session E
  terminal : Stream

namespace Fed

variable {E : Engine} [Memory]

/-- The session after a line of text was fed, or a frame has passed. -/
def take (f : Fed E) : Turn → Fed E
  | .typed s => ⟨(f.session.feed s.text).1, f.terminal.printAll (f.session.feed s.text).2⟩
  | .redraw => ⟨f.session.redraw.session, f.terminal.printAll f.session.redraw.printed⟩

end Fed

namespace Panel

/-- The line that a panel hands over. -/
def Response.line? : Response → Option String
  | submitted line => some line
  | _ => none

/-- An event that does not submit the input edits it, and scrolls at most. -/
theorem handle_edit (p : Panel) {event : Event} (h : event.submits = false) :
    (∃ scrollBack, (p.handle event).1 =
      { p with input := String.ofList (event.edit p.input.toList), scrollBack }) ∧
    (p.handle event).2.line? = none := by
  have hkept : ∀ scrollBack, ({ p with scrollBack } : Panel) =
      { p with input := String.ofList p.input.toList, scrollBack } := by simp
  cases event with
  | text typed => exact ⟨⟨p.scrollBack, by simp [handle, Event.edit]⟩, rfl⟩
  | keyDown key =>
    cases key with
    | enter | keypadEnter => cases h
    | backspace => exact ⟨⟨p.scrollBack, rfl⟩, rfl⟩
    | pageUp | pageDown | escape | tab | f1 | other => exact ⟨⟨_, hkept _⟩, rfl⟩
  | keyUp | wheel | motion | quit => exact ⟨⟨_, hkept _⟩, rfl⟩

theorem handle_submits (p : Panel) {key : Key} (h : key.submits = true) :
    (p.handle (.keyDown key)).1 = { p with input := "" } ∧
      (p.handle (.keyDown key)).2.line? = submission? p.input := by
  cases key with
  | enter | keypadEnter =>
    unfold handle submit
    cases submission? p.input <;> exact ⟨rfl, rfl⟩
  | backspace | pageUp | pageDown | escape | tab | f1 | other => cases h

end Panel

namespace Window

variable {E : Engine}

/-- The window after its panel was handed some events. -/
def press (w : Window E) (events : List Event) : Window E := events.foldl (fun w event => (w.handlePanel event).1) w

/-- The window after a line was typed, or a frame has passed. -/
def take [Memory] (w : Window E) : Turn → Window E
  | .typed s => w.press s.events
  | .redraw => w.redraw.1

theorem press_append (w : Window E) (xs ys : List Event) : w.press (xs ++ ys) = (w.press xs).press ys :=
  List.foldl_append

/-- An event that does not submit the input changes the input and the scroll position of the panel at most. -/
theorem exists_handlePanel_eq (w : Window E) {event : Event} (h : event.submits = false) :
    ∃ scrollBack, (w.handlePanel event).1 =
      { w with panel := { w.panel with input := String.ofList (event.edit w.panel.input.toList), scrollBack } } := by
  obtain ⟨⟨scrollBack, hpanel⟩, hline⟩ := w.panel.handle_edit h
  refine ⟨scrollBack, ?_⟩
  rw [← hpanel]
  -- the first case, in which a line is handed over, is the one that cannot be
  unfold handlePanel
  dsimp only
  split
  · rename_i hsubmitted
    rw [hsubmitted] at hline
    cases hline
  · rfl

/-- Until a line is submitted, only the input and the scroll position of the panel change. -/
private theorem exists_press_eq (w : Window E) {edits : List Event} (h : ∀ event ∈ edits, event.submits = false) :
    ∃ scrollBack, w.press edits =
      { w with panel := { w.panel with input := String.ofList (edits.foldl Event.edit w.panel.input.toList),
                                       scrollBack } } := by
  induction edits generalizing w with
  | nil => exact ⟨w.panel.scrollBack, by simp [press]⟩
  | cons event edits ih =>
    obtain ⟨hevent, hedits⟩ := List.forall_mem_cons.mp h
    obtain ⟨_, hfirst⟩ := w.exists_handlePanel_eq hevent
    obtain ⟨scrollBack, hrest⟩ := ih (w.handlePanel event).1 hedits
    refine ⟨scrollBack, ?_⟩
    show (w.handlePanel event).1.press edits = _
    rw [hrest, hfirst]
    simp

/-- The key that submits a line hands it to the session, if there is one. -/
theorem handlePanel_submits (w : Window E) {key : Key} (h : key.submits = true) :
    (w.handlePanel (.keyDown key)).1 =
      { w with session := (w.session.feed w.panel.input).1,
               panel := { w.panel with input := "" }.printAll (w.session.feed w.panel.input).2 } := by
  obtain ⟨hpanel, hline⟩ := w.panel.handle_submits h
  unfold handlePanel Session.feed
  dsimp only
  rw [hpanel]
  cases hresponse : (w.panel.handle (.keyDown key)).2 with
  | submitted line =>
    rw [hresponse] at hline
    rw [← hline]
    rfl
  | ignored | consumed =>
    rw [hresponse] at hline
    rw [← hline]
    rfl

/-- The line that is typed on an empty input is the line that is fed. -/
theorem take_typed [Memory] (w : Window E) (hi : w.panel.input = "") (s : Submission) :
    ∃ scrollBack, w.take (.typed s) =
      { w with session := (w.session.feed s.text).1,
               panel := { w.panel with scrollBack }.printAll (w.session.feed s.text).2 } := by
  obtain ⟨scrollBack, hpress⟩ := w.exists_press_eq s.edits_open
  rw [hi] at hpress
  refine ⟨scrollBack, ?_⟩
  show w.press (s.edits ++ [.keyDown s.key]) = _
  rw [press_append, hpress]
  refine (handlePanel_submits _ s.key_submits).trans ?_
  simp [Submission.text, hi]

private theorem take_redraw [Memory] {w : Window E} (hr : w.renderer.isSome = true) :
    (w.take .redraw).session = w.session.redraw.session ∧
      (w.take .redraw).panel = w.panel.printAll w.session.redraw.printed ∧
      (w.take .redraw).renderer.isSome = true := by
  obtain ⟨renderer, hr⟩ := Option.isSome_iff_exists.mp hr
  show w.redraw.1.session = _ ∧ w.redraw.1.panel = _ ∧ w.redraw.1.renderer.isSome = true
  unfold redraw
  rw [hr]
  dsimp only
  split
  · exact ⟨rfl, rfl, by simp [print]⟩
  · exact ⟨rfl, rfl, rfl⟩

/-! ### Both in step -/

/-- Whether a window and a session whose lines go to a stream are in step: the panel has the lines of the stream behind
those that it started with. -/
structure Agrees (start : List Line) (w : Window E) (f : Fed E) : Prop where
  built : w.renderer.isSome = true
  session_eq : w.session = f.session
  lines_eq : w.panel.lines = start ++ f.terminal.lines
  input_eq : w.panel.input = ""
  written_eq : f.terminal.written = transcript f.terminal.lines

variable {start : List Line} {w : Window E} {f : Fed E}

private theorem Agrees.print {lines : List Line} {session : Session E} {w' : Window E} {p : Panel}
    (h : w.Agrees start f) (hr : w'.renderer.isSome = true) (hs : w'.session = session)
    (hlines : p.lines = w.panel.lines) (hinput : p.input = w.panel.input) (hp : w'.panel = p.printAll lines) :
    w'.Agrees start ⟨session, f.terminal.printAll lines⟩ where
  built := hr
  session_eq := hs
  lines_eq := by
    rw [hp, Panel.lines_printAll, Stream.lines_printAll, hlines, h.lines_eq, List.append_assoc]
  input_eq := by
    obtain ⟨scrollBack, hprint⟩ := p.exists_printAll_eq lines
    rw [hp, hprint]
    exact hinput.trans h.input_eq
  written_eq := by
    rw [Stream.written_printAll, Stream.lines_printAll, transcript_append, h.written_eq]

theorem Agrees.take [Memory] (h : w.Agrees start f) (turn : Turn) : (w.take turn).Agrees start (f.take turn) := by
  cases turn with
  | typed s =>
    obtain ⟨scrollBack, htake⟩ := w.take_typed h.input_eq s
    rw [htake, h.session_eq]
    exact h.print h.built rfl (p := { w.panel with scrollBack }) rfl rfl rfl
  | redraw =>
    obtain ⟨hsession, hpanel, hbuilt⟩ := take_redraw h.built
    rw [h.session_eq] at hsession hpanel
    exact h.print hbuilt hsession rfl rfl hpanel

private theorem Agrees.turns [Memory] (h : w.Agrees start f) (turns : List Turn) :
    (turns.foldl Window.take w).Agrees start (turns.foldl Fed.take f) := by
  induction turns generalizing w f with
  | nil => exact h
  | cons turn turns ih => exact ih (h.take turn)

/-- A panel with an empty input and a stream are interchangeable: whatever lines are typed and frames pass, the session
is the one that the lines' texts are fed to, and the panel has the lines of the stream behind those that it started
with.  The stream holds its lines and nothing else, and the input is empty again.  For any line that is typed next, the
panel hands over what would be fed, or neither does anything. -/
theorem agrees_turns [Memory] (w : Window E) (hr : w.renderer.isSome = true) (hi : w.panel.input = "")
    (turns : List Turn) :
    let shown := turns.foldl Window.take w
    let fed := turns.foldl Fed.take ⟨w.session, {}⟩
    shown.session = fed.session ∧ shown.panel.lines = w.panel.lines ++ fed.terminal.lines ∧ shown.panel.input = "" ∧
      fed.terminal.written = transcript fed.terminal.lines ∧
      ∀ s : Submission,
        ((shown.press s.edits).panel.handle (.keyDown s.key)).2.line? = submission? s.text := by
  intro shown fed
  -- a new stream has no lines, so the panel is ahead by the lines it has now, and stays so
  have hstart : w.Agrees w.panel.lines ⟨w.session, {}⟩ := ⟨hr, rfl, (List.append_nil _).symm, hi, rfl⟩
  have h : shown.Agrees w.panel.lines fed := hstart.turns turns
  refine ⟨h.session_eq, h.lines_eq, h.input_eq, h.written_eq, fun s => ?_⟩
  obtain ⟨scrollBack, hpress⟩ := shown.exists_press_eq s.edits_open
  obtain ⟨-, hline⟩ := (shown.press s.edits).panel.handle_submits s.key_submits
  rw [hline, hpress, h.input_eq]
  rfl

/-- A script in which the second training fails. -/
def tiring : Engine.Script where
  defaults := Config.ofList [("food_size", .real 0.01)]
  world := ⟨[], []⟩
  builds := []
  steps := [.ok (some "generation 1")]
  trainings := [.ok (some "generation 2"), .error (.reported "RuntimeError" "too tired")]

/-- A window for it whose canvas is made. -/
def tired : Window (Engine.scripted tiring) where
  width := 800
  height := 600
  panelShown := true
  statusShown := true
  running := true
  frameTimes := []
  timed := 0
  session := ⟨[], ⟨⟨tiring.defaults, tiring.steps, tiring.trainings⟩, 0, 0⟩, 1, true⟩
  panel := ⟨800, 0, 420, 600, [some "welcome"], "", 0, 10, .made 0⟩
  renderer := some ⟨⟨.made 1, 800, 600⟩, none⟩
  surfaces := 2

/-- A line is typed in pieces with slips, a frame passes, and a line of blanks is typed. -/
theorem agrees_turns_tired :
    let turns : List Turn :=
      [.typed ⟨[.keyDown .backspace, .text " tr", .wheel 2, .text "ane", .keyDown .backspace, .text "", .motion,
          .keyDown .backspace, .text "in 3"], .enter, by decide, rfl⟩,
        .redraw, .typed ⟨[.text "  "], .keypadEnter, by decide, rfl⟩]
    let fed := turns.foldl Fed.take ⟨tired.session, {}⟩
    tired.renderer.isSome = true ∧ tired.panel.input = "" ∧
      (turns.foldl Window.take tired).session = fed.session ∧
      (turns.foldl Window.take tired).panel.lines = some "welcome" :: fed.terminal.lines ∧
      fed.terminal.written = transcript fed.terminal.lines ∧
      fed.terminal.lines =
        [some "", some "$ train 3", some "generation 2", some "", some "  ^ err: too tired", some "generation 1"] := by
  intro turns fed
  obtain ⟨hsession, hlines, -, hwritten, -⟩ := agrees_turns tired rfl rfl turns
  exact ⟨rfl, rfl, hsession, hlines, hwritten, by decide +kernel⟩

end Window

end Aviary
