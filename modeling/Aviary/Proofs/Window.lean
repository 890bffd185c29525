import Aviary.Proofs.Typing
import Mathlib.Algebra.Group.Nat.Even

/-!
# Steps of an open window

Of the calls that a window makes, an onlooker notes few: the window gets a size, a redraw clears the canvas, a surface
comes onto the screen, a frame is flipped and waited for, and the display is quit.  What shapes are made of is not
among them (`notes_paintAll`).  As long as a window is open it keeps its canvas and the surface of its panel
(`Opened`), so no event fails and a size is given to the window for the tab key only (`Opened.handle`), and a frame
redraws once and shows the panel if and only if it is not hidden (`Opened.frame`).
-/

namespace Aviary

/-- Whether an event closes the window. -/
def Event.closes : Event → Bool
  | .quit | .keyDown .escape => true
  | _ => false

/-- Whether an event hides or shows the panel. -/
def Event.toggles : Event → Bool
  | .keyDown .tab => true
  | _ => false

/-- What an onlooker notes of a call. -/
inductive Note where
  | mode (width height : Int)
  /-- A redraw clears the canvas first; nothing else is filled with the colour of the background. -/
  | redraw
  /-- A surface is copied onto the screen. -/
  | shown (id : SurfaceId)
  | flip
  | tick
  | quit
  deriving DecidableEq

namespace Note

/-- Whether a note is about the course of a run rather than about what is on screen. -/
def isBeat : Note → Bool
  | mode _ _ | shown _ => false
  | _ => true

def mode? : Note → Option (Int × Int)
  | mode width height => some (width, height)
  | _ => none

/-- The size that the window got last. -/
def lastMode (notes : List Note) : Option (Int × Int) := (notes.filterMap mode?).getLast?

theorem lastMode_append (xs ys : List Note) : lastMode (xs ++ ys) = (lastMode ys).or (lastMode xs) := by
  unfold lastMode
  rw [List.filterMap_append, List.getLast?_append]

theorem lastMode_append_of_none {xs ys : List Note} (h : ∀ note ∈ ys, note.mode? = none) :
    lastMode (xs ++ ys) = lastMode xs := by
  have hnone : ys.filterMap mode? = [] := List.filterMap_eq_nil_iff.mpr h
  rw [lastMode_append, lastMode, hnone]
  rfl

end Note

def Call.note? : Call Number → Option Note
  | .setMode width height => some (.mode width height)
  | .fill _ color => if color = .background then some .redraw else none
  | .blit .screen (.surface id) _ _ => some (.shown id)
  | .flip => some .flip
  | .tick _ => some .tick
  | .quit => some .quit
  | _ => none

def notes (calls : List (Call Number)) : List Note := calls.filterMap Call.note?

@[simp] theorem notes_append (a b : List (Call Number)) : notes (a ++ b) = notes a ++ notes b := List.filterMap_append

@[simp] theorem notes_nil : notes [] = [] := rfl

private theorem notes_cons (call : Call Number) (calls : List (Call Number)) :
    notes (call :: calls) = call.note?.toList ++ notes calls := by
  unfold notes
  rw [List.filterMap_cons]
  cases call.note? <;> rfl

/-! ### Scenes -/

variable {on : Surface}

private theorem Shape.note?_call (shape : Shape Number) (on : SurfaceId) (color : Color) :
    (shape.call on color).note? = none := by
  cases shape <;> rfl

private theorem Shape.notes_paint {shape : Shape Number} {color : Color} {scratch : SurfaceId}
    {calls : List (Call Number)}
    (hon : on.id ≠ .screen) (h : shape.paint on color scratch = .ok calls) : notes calls = [] := by
  have hcall : ∀ (s : Shape Number) id, notes [s.call id color] = [] := by
    intro s id
    rw [notes_cons, note?_call]
    rfl
  unfold paint at h
  split at h
  · obtain rfl := Except.ok.inj h
    exact hcall shape on.id
  · unfold blend at h
    obtain ⟨box, -, h⟩ := Fault.bind_eq_ok_iff.mp h
    dsimp only at h
    split at h
    · cases h
      rfl
    · split at h
      · cases h
      · obtain ⟨moved, -, h⟩ := Fault.bind_eq_ok_iff.mp h
        obtain rfl := Except.ok.inj h
        rw [notes_cons, notes_cons, note?_call]
        show notes [.blit on.id (.surface scratch) _ _] = []
        cases hid : on.id with
        | screen => exact absurd hid hon
        | made i => rfl


private theorem Viewport.notes_paint {primitive : Primitive} {scratch : SurfaceId} {calls : List (Call Number)}
    (hon : on.id ≠ .screen) (hp : primitive ≠ .clear) (h : paint on scratch primitive = .ok calls) :
    notes calls = [] := by
  cases primitive with
  | clear => exact absurd rfl hp
  | circle | triangle | arc =>
    obtain ⟨shape, -, h⟩ := Fault.bind_eq_ok_iff.mp h
    exact Shape.notes_paint hon h

/-- Nothing is noted of shapes. -/
theorem Viewport.notes_paintAll (hon : on.id ≠ .screen) {primitives : List Primitive} (hp : .clear ∉ primitives)
    (made : Nat) : notes (paintAll on made primitives).calls = [] := by
  induction primitives generalizing made with
  | nil => rfl
  | cons p ps ih =>
    obtain ⟨hclear, hps⟩ := List.ne_and_not_mem_of_not_mem_cons hp
    unfold paintAll
    cases hpaint : paint on (.made made) p with
    | error fault => rfl
    | ok calls =>
      show notes (calls ++ (paintAll on _ ps).calls) = []
      rw [notes_append, notes_paint hon hclear.symm hpaint, ih hps]
      rfl

theorem Scene.exists_eq_arc_of_mem_arcs {x y radius : Number} (spans : List (Number × Number))
    (readings : List Number) : ∀ p ∈ (arcs x y radius spans readings).calls,
      ∃ angleFrom angleTo color, p = .arc x y radius angleFrom angleTo color := by
  induction spans generalizing readings with
  | nil => exact List.forall_mem_nil _
  | cons span spans ih =>
    cases readings with
    | nil => exact List.forall_mem_nil _
    | cons energy readings =>
      exact Picture.forall_ofExcept fun color => Picture.forall_andThen (by simp [Picture.emit]) (ih readings)

/-- A scene clears the canvas first, and only once. -/
private theorem Scene.exists_calls_ofWorld [Memory] (config : Config) (world : World) :
    ∃ shapes, (ofWorld config world).calls = .clear :: shapes ∧ .clear ∉ shapes := by
  refine ⟨_, rfl, fun hclear => ?_⟩
  have hfood : ∀ size food, ∀ p ∈ (ofFood size food).calls, p ≠ .clear := by
    intro size food
    exact Picture.forall_ofExcept fun radius => by simp [Picture.emit]
  have hanimal : ∀ size animal, ∀ p ∈ (ofAnimal config size animal).calls, p ≠ .clear := by
    intro size animal
    refine Picture.forall_andThen (by simp [Picture.emit]) (Picture.forall_ofExcept fun e => ?_)
    intro p hp
    obtain ⟨_, _, _, rfl⟩ := exists_eq_arc_of_mem_arcs e.2 animal.vision p hp
    exact Primitive.noConfusion
  exact Picture.forall_ofExcept (P := (· ≠ .clear))
    (fun size => Picture.forall_andThen (Picture.forall_each (hfood size) world.foods)
      (Picture.forall_each (hanimal size) world.animals)) _ hclear rfl


/-! ### Parts of a frame -/

private theorem Panel.notes_rowCalls (on : SurfaceId) (lineHeight top : Int) (rows : List String) :
    notes (rowCalls on lineHeight top rows) = [] := by
  induction rows generalizing top with
  | nil => rfl
  | cons row rows ih =>
    unfold rowCalls
    rw [notes_append, ih]
    split <;> cases on <;> rfl

/-- Finding the rows on screen touches the scroll position only. -/
theorem Panel.exists_visible_eq {p q : Panel} {columns count : Int} {rows : List String}
    (h : p.visible columns count = .ok (q, rows)) : ∃ scrollBack, q = { p with scrollBack } := by
  obtain ⟨_, -, h⟩ := Fault.bind_eq_ok_iff.mp h
  obtain ⟨rfl, -⟩ := Prod.mk.inj (Except.ok.inj h)
  exact ⟨_, rfl⟩

/-- Drawing a panel touches its scroll position and the length of its page only, and a panel that is drawn to its end
comes onto the screen once. -/
theorem Panel.exists_draw_eq (p : Panel) (font : Font) :
    ∃ pageRows scrollBack, (p.draw font).1 = { p with pageRows, scrollBack } ∧
      ((p.draw font).2.fault = none → notes (p.draw font).2.calls = [.shown p.surface]) := by
  unfold draw
  dsimp only
  split
  · exact ⟨p.pageRows, p.scrollBack, rfl, nofun⟩
  · generalize max 1 ((p.height - inputHeight font - padding).fdiv font.lineHeight) = count
    split
    · exact ⟨count.toNat, p.scrollBack, rfl, nofun⟩
    · rename_i q rows hvisible
      obtain ⟨scrollBack, rfl⟩ := exists_visible_eq hvisible
      refine ⟨count.toNat, scrollBack, ?_⟩
      split
      · exact ⟨rfl, nofun⟩
      · refine ⟨rfl, fun _ => ?_⟩
        simp only [Picture.emit, notes_append, notes_rowCalls, inputCalls]
        cases p.surface <;> rfl

/-- What a frame of a session draws is the scene of a world. -/
theorem Session.exists_scene_eq [Memory] {E : Engine} {s : Session E} {world : World} {scene : Picture Primitive}
    (h : s.redraw.scene = .ok (world, scene)) : ∃ config, scene = Scene.ofWorld config world := by
  have hscene : ∀ t : Session E, t.scene = .ok (world, scene) → ∃ config, scene = Scene.ofWorld config world := by
    intro t ht
    obtain ⟨_, -, ht⟩ := Fault.bind_eq_ok_iff.mp ht
    obtain ⟨rfl, rfl⟩ := Prod.mk.inj (Except.ok.inj ht)
    exact ⟨t.config, rfl⟩
  unfold redraw at h
  split at h
  · split at h
    · cases h
    · exact hscene _ h
  · exact hscene _ h

/-- The picture of a scene clears the canvas first, and nothing else is noted of it. -/
private theorem Viewport.notes_paintPicture [Memory] (hon : on.id ≠ .screen) (made : Nat) (config : Config)
    (world : World) :
    notes (paintPicture on made (Scene.ofWorld config world)).calls = [.redraw] := by
  obtain ⟨shapes, hcalls, hclear⟩ := Scene.exists_calls_ofWorld config world
  have hpaint : (paintAll on made (.clear :: shapes)).calls =
      .fill on.id .background :: (paintAll on (made + 0) shapes).calls := rfl
  -- the fault of the scene adds no call
  have hcut : ∀ (p : Picture (Call Number)) fault, (p.andThen ⟨[], fault⟩).calls = p.calls := by
    intro p fault
    unfold Picture.andThen
    cases p.fault <;> simp
  unfold paintPicture
  rw [hcut, hcalls, hpaint, notes_cons, notes_paintAll hon hclear]
  rfl

namespace Window

/-- The panel and the line that it submits touch the session and what is printed and typed only. -/
private theorem exists_handleIfShown_eq {E : Engine} (w : Window E) (event : Event) :
    ∃ session lines input scrollBack,
      w.handleIfShown event = { w with session, panel := { w.panel with lines, input, scrollBack } } := by
  unfold handleIfShown
  split
  · cases hs : event.submits with
    | false =>
      obtain ⟨scrollBack, hedit⟩ := w.exists_handlePanel_eq hs
      exact ⟨w.session, w.panel.lines, _, scrollBack, hedit⟩
    | true =>
      obtain ⟨key, rfl⟩ : ∃ key, event = .keyDown key := by
        cases event with
        | keyDown key => exact ⟨key, rfl⟩
        | text | keyUp | wheel | motion | quit => cases hs
      obtain ⟨scrollBack, hprint⟩ :=
        Panel.exists_printAll_eq { w.panel with input := "" } (w.session.feed w.panel.input).2
      rw [w.handlePanel_submits hs, hprint]
      exact ⟨_, _, _, scrollBack, rfl⟩
  · exact ⟨w.session, w.panel.lines, w.panel.input, w.panel.scrollBack, rfl⟩

variable {E : Engine} [Memory] {w : Window E} {font : Font} {time : Float}

/-- A redraw that is not cut short touches the session, what was printed, the world drawn last and the number of
surfaces, and clears the canvas once. -/
theorem exists_redraw_eq {canvas : Surface} {world : Option World} (hr : w.renderer = some ⟨canvas, world⟩)
    (hc : canvas.id ≠ .screen) (h : w.redraw.2.fault = none) :
    ∃ session lines scrollBack lastWorld made,
      w.redraw.1 = { w with session, panel := { w.panel with lines, scrollBack }, renderer := some ⟨canvas, lastWorld⟩,
                            surfaces := w.surfaces + made } ∧
        notes w.redraw.2.calls = [.redraw] := by
  obtain ⟨scrollBack, hprint⟩ := w.panel.exists_printAll_eq w.session.redraw.printed
  unfold redraw at h ⊢
  rw [hr] at h ⊢
  dsimp only [print] at h ⊢
  rw [hprint] at h ⊢
  split
  · rename_i hscene
    rw [hscene] at h
    cases h
  · rename_i world' scene hscene
    obtain ⟨config, rfl⟩ := Session.exists_scene_eq hscene
    exact ⟨_, _, _, _, _, rfl, Viewport.notes_paintPicture hc _ config world'⟩

/-- A status line that is drawn touches the number of surfaces only, and comes onto the screen as a new surface. -/
theorem exists_drawStatus_eq (h : w.drawStatus.2.fault = none) :
    ∃ made, w.drawStatus.1 = { w with surfaces := w.surfaces + made } ∧
      notes w.drawStatus.2.calls = if w.statusShown then [.shown (.made w.surfaces)] else [] := by
  unfold drawStatus at h ⊢
  by_cases hs : w.statusShown = true
  · have hnot : ¬ (!w.statusShown) = true := by simp [hs]
    rw [if_neg hnot] at h ⊢
    rw [if_pos hs]
    dsimp only at h ⊢
    split
    · rename_i hmake
      rw [hmake] at h
      cases h
    · rename_i call hmake
      obtain ⟨_, -, hcall⟩ := Fault.bind_eq_ok_iff.mp hmake
      obtain ⟨-, rfl⟩ := Prod.mk.inj (Except.ok.inj hcall)
      exact ⟨1, rfl, rfl⟩
  · rw [if_neg hs, if_pos (by simp [hs])]
    exact ⟨0, rfl, rfl⟩

/-- A panel of the window's height touches nothing but the panel when it is drawn, and comes onto the screen if it is
not hidden. -/
theorem exists_drawPanel_eq (hp : w.panel.height = w.height) (h : (w.drawPanel font).2.fault = none) :
    ∃ x pageRows scrollBack, (w.drawPanel font).1 = { w with panel := { w.panel with x, pageRows, scrollBack } } ∧
      notes (w.drawPanel font).2.calls = if w.panelShown then [.shown w.panel.surface] else [] := by
  have hresize : w.panel.resize w.surfaces w.width w.height = ({ w.panel with x := w.width }, .done) := by
    unfold Panel.resize
    exact if_pos hp.symm
  unfold drawPanel at h ⊢
  rw [hresize] at h ⊢
  by_cases hs : w.panelShown = true
  · have hnot : ¬ (!w.panelShown) = true := by simp [hs]
    rw [if_neg hnot] at h ⊢
    obtain ⟨pageRows, scrollBack, hpanel, hnotes⟩ := Panel.exists_draw_eq { w.panel with x := w.width } font
    refine ⟨w.width, pageRows, scrollBack, congrArg (fun panel => ({ w with panel } : Window E)) hpanel, ?_⟩
    rw [if_pos hs]
    exact hnotes h
  · rw [if_neg hs, if_pos (by simp [hs])]
    exact ⟨w.panel.x, w.panel.pageRows, w.panel.scrollBack, rfl, rfl⟩

/-- A frame that is drawn to its end is a redraw, the canvas, the status line and the panel. -/
theorem frame_eq (h : (w.frame font time).2.fault = none) :
    let counted := w.redraw.1.countFrame time
    let lined := counted.drawStatus.1
    (w.redraw.2.fault = none ∧ counted.drawStatus.2.fault = none ∧ (lined.drawPanel font).2.fault = none) ∧
      (w.frame font time).1 = (lined.drawPanel font).1 ∧
      (w.frame font time).2.calls = w.redraw.2.calls ++ lined.showCanvas.calls ++ counted.drawStatus.2.calls ++
        (lined.drawPanel font).2.calls := by
  -- a fault of one of the parts would be the fault of the frame
  unfold frame at h ⊢
  dsimp only at h ⊢
  split at h
  · rename_i hf
    rw [h] at hf
    cases hf
  · rename_i hredraw
    rw [if_neg hredraw]
    have hredraw : w.redraw.2.fault = none := by simpa using hredraw
    split at h
    · rename_i hf
      have hstatus := (Picture.fault_andThen.mp h).2
      simp [hstatus] at hf
    · rename_i hstatus
      rw [if_neg hstatus]
      obtain ⟨hleft, hpanel⟩ := Picture.fault_andThen.mp h
      obtain ⟨hfirst, hstatus⟩ := Picture.fault_andThen.mp hleft
      refine ⟨⟨hredraw, hstatus, hpanel⟩, rfl, ?_⟩
      rw [Picture.calls_andThen _ hleft, Picture.calls_andThen _ hfirst, Picture.calls_andThen _ hredraw]

/-! ### Events -/

/-- An event touches the session, what is printed and typed, and the flags; the window gets another size if and only if
the panel is hidden or shown. -/
theorem exists_handle_eq (w : Window E) (event : Event) :
    ∃ session lines input scrollBack statusShown,
      (w.handle event).1 =
        { w with session, panel := { w.panel with lines, input, scrollBack }, statusShown,
                 running := if event.closes then false else w.running,
                 panelShown := if event.toggles then !w.panelShown else w.panelShown } ∧
      (w.handle event).2 = if event.toggles then (w.handle event).1.setMode else .done := by
  obtain ⟨session, lines, input, scrollBack, hpanel⟩ := w.exists_handleIfShown_eq event
  have hkept : ∀ statusShown running panelShown,
      ({ w with statusShown, running, panelShown } : Window E) =
        { w with session := w.session,
                 panel := { w.panel with lines := w.panel.lines, input := w.panel.input,
                                         scrollBack := w.panel.scrollBack },
                 statusShown, running, panelShown } := fun _ _ _ => rfl
  -- three keys and the end of the window are for the window itself, all else goes to the panel if it is shown
  cases event with
  | quit => exact ⟨_, _, _, _, _, hkept w.statusShown false w.panelShown, rfl⟩
  | text | keyUp | wheel | motion => exact ⟨session, lines, input, scrollBack, w.statusShown, hpanel, rfl⟩
  | keyDown key =>
    cases key with
    | escape => exact ⟨_, _, _, _, _, hkept w.statusShown false w.panelShown, rfl⟩
    | tab => exact ⟨_, _, _, _, _, hkept w.statusShown w.running (!w.panelShown), rfl⟩
    | f1 => exact ⟨_, _, _, _, _, hkept (!w.statusShown) w.running w.panelShown, rfl⟩
    | enter | keypadEnter | backspace | pageUp | pageDown | other =>
      exact ⟨session, lines, input, scrollBack, w.statusShown, hpanel, rfl⟩

/-! ### Open windows -/

/-- What a window keeps from the time its canvas is made: its size, for which there are surfaces with the panel and
without, the surface of the panel and the canvas. -/
structure Opened (width height : Int) (w : Window E) : Prop where
  width_eq : w.width = width
  height_eq : w.height = height
  panelHeight : w.panel.height = height
  panelSurface : w.panel.surface = .made 0
  canvas : ∃ canvas world, w.renderer = some ⟨canvas, world⟩ ∧ canvas.id = .made 1
  surfaces : 2 ≤ w.surfaces
  wide : ∃ size, Surface.size (width + panelWidth) height = .ok size
  narrow : ∃ size, Surface.size width height = .ok size

variable {width height : Int}

theorem Opened.setMode_eq (h : w.Opened width height) : w.setMode = .emit [.setMode w.totalWidth height] := by
  have hsize : ∃ size, Surface.size w.totalWidth height = .ok size := by
    unfold totalWidth
    rw [h.width_eq]
    split
    · exact h.wide
    · rw [Int.add_zero]
      exact h.narrow
  obtain ⟨size, hsize⟩ := hsize
  unfold setMode
  rw [h.height_eq, hsize]
  rfl

/-- An open window stays open, no event fails, and the window gets its size anew for the tab key. -/
theorem Opened.handle (h : w.Opened width height) (event : Event) :
    (w.handle event).1.Opened width height ∧ (w.handle event).2.fault = none ∧
      notes (w.handle event).2.calls =
        if event.toggles then [.mode (w.handle event).1.totalWidth height] else [] := by
  have hopened : (w.handle event).1.Opened width height := by
    obtain ⟨session, lines, input, scrollBack, statusShown, hw, -⟩ := w.exists_handle_eq event
    rw [hw]
    exact ⟨h.width_eq, h.height_eq, h.panelHeight, h.panelSurface, h.canvas, h.surfaces, h.wide, h.narrow⟩
  obtain ⟨_, _, _, _, _, -, hpicture⟩ := w.exists_handle_eq event
  refine ⟨hopened, ?_⟩
  rw [hpicture, hopened.setMode_eq]
  split
  · exact ⟨rfl, rfl⟩
  · exact ⟨rfl, rfl⟩

/-- A frame that is drawn to its end leaves an open window open, with its flags.  It redraws once, and the panel comes
onto the screen, behind other surfaces, if it is not hidden. -/
theorem Opened.frame (h : w.Opened width height) (hf : (w.frame font time).2.fault = none) :
    (w.frame font time).1.Opened width height ∧ (w.frame font time).1.running = w.running ∧
      (w.frame font time).1.panelShown = w.panelShown ∧
      ∃ others : List SurfaceId, .made 0 ∉ others ∧ notes (w.frame font time).2.calls =
        .redraw :: (others.map .shown ++ if w.panelShown then [.shown (.made 0)] else []) := by
  obtain ⟨⟨hredraw, hstatus, hpanel⟩, hw, hcalls⟩ := frame_eq hf
  obtain ⟨canvas, world, hrenderer, hcanvas⟩ := h.canvas
  obtain ⟨session, lines, scrollBack, lastWorld, made, hdrawn, hclear⟩ :=
    exists_redraw_eq hrenderer (by simp [hcanvas]) hredraw
  obtain ⟨shades, hlined, hshade⟩ := exists_drawStatus_eq hstatus
  have hheight : (w.redraw.1.countFrame time).drawStatus.1.panel.height =
      (w.redraw.1.countFrame time).drawStatus.1.height := by
    rw [hlined, hdrawn]
    exact h.panelHeight.trans h.height_eq.symm
  obtain ⟨x, pageRows, scrollBack', hshown, hside⟩ := exists_drawPanel_eq hheight hpanel
  have hsurfaces := h.surfaces
  rw [hw, hshown, hlined, hdrawn]
  refine ⟨⟨h.width_eq, h.height_eq, h.panelHeight, h.panelSurface, ⟨canvas, lastWorld, rfl, hcanvas⟩, ?_, h.wide,
    h.narrow⟩, rfl, rfl, ?_⟩
  · show 2 ≤ w.surfaces + made + shades
    omega
  · -- the surface of the status line is new, so it is not the panel's
    refine ⟨.made 1 :: if w.statusShown then [.made (w.surfaces + made)] else [], ?_, ?_⟩
    · split <;> simp
      omega
    · rw [hcalls, notes_append, notes_append, notes_append, hclear, hshade, hside, hlined, hdrawn]
      show [Note.redraw] ++ [Note.shown canvas.id] ++
        (if w.statusShown then [Note.shown (.made (w.surfaces + made))] else []) ++
        (if w.panelShown then [Note.shown w.panel.surface] else []) = _
      rw [hcanvas, h.panelSurface]
      cases w.statusShown <;> rfl

/-! ### New windows -/

/-- The session and the lines that a new window starts with: those of the scenario's command, if there is one. -/
def prepare (session : Session E) (scenario : Option String) : Session E × List Line :=
  match scenario.bind Scenario.find? with
  | some s => session.answer s.command
  | none => (session, [])

theorem eq_of_make {scenario : Option String} {call : Call Number} (h : make E width height scenario = .ok (w, call)) :
    ∃ session, Session.start E E.defaults true = .ok session ∧
      w = { width, height, panelShown := true, statusShown := true, running := true, frameTimes := [], timed := 0,
            session := (prepare session scenario).1,
            panel := { x := width, y := 0, width := panelWidth, height,
                       lines := Line.ofTexts Introduction.lines ++ (prepare session scenario).2, input := "",
                       scrollBack := Panel.farthest, pageRows := 10, surface := .made 0 },
            renderer := none, surfaces := 1 } := by
  obtain ⟨session, hsession, h⟩ := Fault.bind_eq_ok_iff.mp h
  obtain ⟨⟨panel, call'⟩, hpanel, h⟩ := Fault.bind_eq_ok_iff.mp h
  obtain ⟨⟨surface, call''⟩, hsurface, hpanel⟩ := Fault.bind_eq_ok_iff.mp hpanel
  obtain ⟨size, -, hsurface⟩ := Fault.bind_eq_ok_iff.mp hsurface
  obtain ⟨rfl, -⟩ := Prod.mk.inj (Except.ok.inj hsurface)
  obtain ⟨rfl, -⟩ := Prod.mk.inj (Except.ok.inj hpanel)
  obtain ⟨rfl, -⟩ := Prod.mk.inj (Except.ok.inj h)
  refine ⟨session, hsession, ?_⟩
  obtain ⟨_, hintro⟩ := Panel.exists_printAll_eq ⟨width, 0, panelWidth, height, [], "", 0, 10, .made 0⟩
    (Line.ofTexts Introduction.lines)
  unfold prepare
  dsimp only
  rw [hintro, List.nil_append]
  cases scenario.bind Scenario.find? with
  | none => rw [List.append_nil]; rfl
  | some s =>
    dsimp only [enter, print]
    obtain ⟨_, hprint⟩ := Panel.exists_printAll_eq
      ⟨width, 0, panelWidth, height, Line.ofTexts Introduction.lines, "", _, 10, .made 0⟩ (session.answer s.command).2
    rw [hprint]
    rfl

/-- Once a simulation is started, all that a window takes to be made is a surface for its panel. -/
theorem make_of_start {session : Session E} (hstart : Session.start E E.defaults true = .ok session)
    (width height : Int) (scenario : Option String) :
    (∃ fault, Surface.size panelWidth height = .error fault ∧ Window.make E width height scenario = .error fault) ∨
      ∃ w call, Window.make E width height scenario = .ok (w, call) := by
  unfold Window.make Panel.make Surface.make
  rw [hstart]
  cases hsize : Surface.size panelWidth height with
  | error fault => exact .inl ⟨fault, rfl, rfl⟩
  | ok size => exact .inr ⟨_, _, rfl⟩

theorem exists_size_of_make {width height : Int} {scenario : Option String} {w : Window E} {call : Call Number}
    (h : Window.make E width height scenario = .ok (w, call)) :
    ∃ size, Surface.size panelWidth height = .ok size := by
  obtain ⟨_, -, h⟩ := Fault.bind_eq_ok_iff.1 h
  obtain ⟨_, hpanel, -⟩ := Fault.bind_eq_ok_iff.1 h
  obtain ⟨_, hsurface, -⟩ := Fault.bind_eq_ok_iff.1 hpanel
  obtain ⟨size, hsize, -⟩ := Fault.bind_eq_ok_iff.1 hsurface
  exact ⟨size, hsize⟩

end Window

end Aviary
