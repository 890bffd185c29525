import Aviary.Proofs.Loop
import Aviary.Proofs.Rendering

/-!
# What the status line says

Some calls of a frame bear on its status line (`Mark`): the circles and polygons on the canvas, the texts that come
onto the screen, and the flip at the end.  A scene that is drawn to its end has a circle for every food and a polygon
for every animal (`Viewport.marks_paintPicture`), and nothing else in a frame has any.  The one text is the status line
(`Window.marks_drawStatus`), which is made from the world that was drawn and the session that stepped or did not, so it
is true of the frame (`Window.Opened.describes_frame`).  Whatever came before, what is flipped in a run is a frame of
the window as the events so far have left it (`Window.Opened.loop_getElem?`).  The main statement is
`Window.status_of_run`.
-/

namespace Aviary

/-- What of a call bears on the status line of a frame. -/
inductive Mark where
  /-- A circle on the canvas. -/
  | circle
  /-- A polygon on the canvas. -/
  | polygon
  /-- A text on the screen. -/
  | text (content : String)
  | flip
  deriving DecidableEq

def Mark.text? : Mark → Option String
  | text content => some content
  | _ => none

def Call.mark? (canvas : SurfaceId) : Call Number → Option Mark
  | .circle on _ _ _ _ => if on = canvas then some .circle else none
  | .polygon on _ _ => if on = canvas then some .polygon else none
  | .blit .screen (.text content _) _ _ => some (.text content)
  | .flip => some .flip
  | _ => none

def marks (canvas : SurfaceId) (calls : List (Call Number)) : List Mark := calls.filterMap (Call.mark? canvas)

@[simp] private theorem marks_append (canvas : SurfaceId) (a b : List (Call Number)) :
    marks canvas (a ++ b) = marks canvas a ++ marks canvas b := List.filterMap_append

private theorem marks_eq_nil {canvas : SurfaceId} {calls : List (Call Number)}
    (h : ∀ call ∈ calls, call.mark? canvas = none) : marks canvas calls = [] := List.filterMap_eq_nil_iff.mpr h

private theorem flip_mem_marks_iff {canvas : SurfaceId} {calls : List (Call Number)} :
    .flip ∈ marks canvas calls ↔ .flip ∈ calls := by
  unfold marks
  rw [List.mem_filterMap]
  constructor
  · rintro ⟨call, hmem, hmark⟩
    have hcall : call = .flip := by
      unfold Call.mark? at hmark
      split at hmark <;> grind
    exact hcall ▸ hmem
  · exact fun h => ⟨.flip, h, rfl⟩

/-- Where nothing is marked nothing is flipped. -/
private theorem flip_notMem_of_marks {handled : List (Call Number)} (h : ∀ canvas, marks canvas handled = []) :
    .flip ∉ handled := by
  intro hmem
  have hflip : .flip ∈ marks .screen handled := flip_mem_marks_iff.mpr hmem
  rw [h] at hflip
  cases hflip

/-! ### Scenes -/

/-- The mark of a primitive that is drawn on the canvas itself. -/
def Primitive.mark? : Primitive → Option Mark
  | circle _ _ _ _ => some .circle
  | triangle _ _ _ _ _ => some .polygon
  | _ => none

/-- Whether a primitive is no translucent circle or triangle. -/
def Primitive.Stays : Primitive → Prop
  | circle _ _ _ color | triangle _ _ _ _ color => color.alpha = none
  | _ => True

/-- The mark of a shape that is drawn on the canvas itself. -/
def Shape.mark? : Shape Number → Option Mark
  | circle _ _ _ => some .circle
  | triangle _ _ _ => some .polygon
  | arc _ _ _ _ => none

variable {on : Surface}

/-- An opaque shape is drawn on the surface itself, and a translucent arc is no circle or polygon anywhere. -/
private theorem Shape.marks_paint {shape : Shape Number} {color : Color} {scratch : SurfaceId}
    {calls : List (Call Number)}
    (hs : color.alpha = none ∨ shape.mark? = none) (h : shape.paint on color scratch = .ok calls) :
    marks on.id calls = shape.mark?.toList := by
  unfold paint at h
  split at h
  · obtain rfl := Except.ok.inj h
    cases shape <;> simp [marks, Call.mark?, call, mark?]
  · rename_i halpha
    have hmark := hs.resolve_left (by simp [halpha])
    cases shape with
    | circle | triangle => cases hmark
    | arc box start stop stroke =>
      unfold blend at h
      obtain ⟨_, -, h⟩ := Fault.bind_eq_ok_iff.mp h
      dsimp only at h
      split at h
      · cases h
        rfl
      · split at h
        · cases h
        · obtain ⟨moved, hmoved, h⟩ := Fault.bind_eq_ok_iff.mp h
          obtain rfl := Except.ok.inj h
          obtain rfl := Except.ok.inj hmoved
          cases on.id <;> rfl

namespace Viewport

private theorem mark?_circle {x y radius : Number} {shape : Shape Number} (h : circle on x y radius = .ok shape) :
    shape.mark? = some .circle := by
  obtain ⟨_, -, h⟩ := Fault.bind_eq_ok_iff.mp h
  obtain ⟨_, -, h⟩ := Fault.bind_eq_ok_iff.mp h
  cases h
  rfl

private theorem mark?_triangle {x y size rotation : Number} {shape : Shape Number}
    (h : triangle on x y size rotation = .ok shape) : shape.mark? = some .polygon := by
  obtain ⟨_, -, h⟩ := Fault.bind_eq_ok_iff.mp h
  obtain ⟨_, -, h⟩ := Fault.bind_eq_ok_iff.mp h
  obtain ⟨_, -, h⟩ := Fault.bind_eq_ok_iff.mp h
  obtain ⟨_, -, h⟩ := Fault.bind_eq_ok_iff.mp h
  cases h
  rfl

private theorem mark?_arc {x y radius angleFrom angleTo : Number} {shape : Shape Number}
    (h : arc on x y radius angleFrom angleTo = .ok shape) : shape.mark? = none := by
  unfold arc at h
  simp only [Fault.bind_eq_ok_iff] at h
  obtain ⟨_, -, _, -, _, -, _, -, _, -, _, -, _, -, h⟩ := h
  cases h
  rfl

private theorem marks_paint {primitive : Primitive} {scratch : SurfaceId} {calls : List (Call Number)}
    (hp : primitive.Stays) (h : paint on scratch primitive = .ok calls) :
    marks on.id calls = primitive.mark?.toList := by
  cases primitive with
  | clear =>
    cases h
    rfl
  | circle x y radius color =>
    obtain ⟨shape, hshape, h⟩ := Fault.bind_eq_ok_iff.mp h
    rw [Shape.marks_paint (.inl hp) h, mark?_circle hshape]
    rfl
  | triangle x y size rotation color =>
    obtain ⟨shape, hshape, h⟩ := Fault.bind_eq_ok_iff.mp h
    rw [Shape.marks_paint (.inl hp) h, mark?_triangle hshape]
    rfl
  | arc x y radius angleFrom angleTo color =>
    obtain ⟨shape, hshape, h⟩ := Fault.bind_eq_ok_iff.mp h
    have hmark := mark?_arc hshape
    rw [Shape.marks_paint (.inr hmark) h, hmark]
    rfl

/-- The marks of a picture are those of its primitives, as far as it is drawn. -/
private theorem marks_paintAll (on : Surface) (made : Nat) {primitives : List Primitive}
    (hp : ∀ p ∈ primitives, p.Stays) :
    marks on.id (paintAll on made primitives).calls <+: primitives.filterMap Primitive.mark? ∧
      ((paintAll on made primitives).fault = none →
        marks on.id (paintAll on made primitives).calls = primitives.filterMap Primitive.mark?) := by
  induction primitives generalizing made with
  | nil => exact ⟨List.prefix_rfl, fun _ => rfl⟩
  | cons p ps ih =>
    obtain ⟨hfirst, hrest⟩ := List.forall_mem_cons.mp hp
    unfold paintAll
    cases hpaint : paint on (.made made) p with
    | error fault =>
      refine ⟨List.nil_prefix, fun h => ?_⟩
      cases h
    | ok calls =>
      obtain ⟨hinit, heq⟩ := ih (made + surfacesMade calls) hrest
      have hcons : (p :: ps).filterMap Primitive.mark? = p.mark?.toList ++ ps.filterMap Primitive.mark? := by
        rw [List.filterMap_cons]
        cases p.mark? <;> rfl
      have hmarks : marks on.id (calls ++ (paintAll on (made + surfacesMade calls) ps).calls) =
          p.mark?.toList ++ marks on.id (paintAll on (made + surfacesMade calls) ps).calls := by
        rw [marks_append, marks_paint hfirst hpaint]
      rw [hcons]
      refine ⟨?_, fun hf => ?_⟩
      · show marks on.id (calls ++ _) <+: _
        rw [hmarks]
        exact (List.prefix_append_right_inj _).mpr hinit
      · show marks on.id (calls ++ _) = _
        rw [hmarks, heq hf]

end Viewport

/-- The parts of a picture that is drawn to its end have one mark each if each picture of a part does. -/
private theorem Picture.filterMap_each {α β γ : Type} {g : α → Option γ} {mark : γ} {xs : List β} {f : β → Picture α}
    (hmark : ∀ x ∈ xs, (f x).fault = none → (f x).calls.filterMap g = [mark]) (h : (each xs f).fault = none) :
    (each xs f).calls.filterMap g = List.replicate xs.length mark := by
  induction xs with
  | nil => rfl
  | cons x xs ih =>
    obtain ⟨hfirst, hrest⟩ := List.forall_mem_cons.mp hmark
    obtain ⟨hx, hxs⟩ := fault_andThen.mp h
    show ((f x).andThen (each xs f)).calls.filterMap g = _
    rw [calls_andThen _ hx, List.filterMap_append, hfirst hx, ih hrest hxs]
    rfl

namespace Scene

private theorem marks_ofFood {size : Number} {food : Food} (h : (ofFood size food).fault = none) :
    (ofFood size food).calls.filterMap Primitive.mark? = [.circle] := by
  obtain ⟨radius, hradius, -⟩ := Picture.fault_ofExcept.mp h
  unfold ofFood
  rw [hradius]
  rfl

variable [Memory]

private theorem marks_ofAnimal {config : Config} {size : Number} {animal : Animal} :
    (ofAnimal config size animal).calls.filterMap Primitive.mark? = [.polygon] := by
  have heye : ∀ p ∈ (Picture.ofExcept (eye config size animal) fun e =>
      arcs animal.x animal.y e.1 e.2 animal.vision).calls, p.mark? = none := by
    refine Picture.forall_ofExcept fun e p hp => ?_
    obtain ⟨_, _, _, rfl⟩ := exists_eq_arc_of_mem_arcs e.2 animal.vision p hp
    rfl
  show List.filterMap _ ([_] ++ _) = _
  rw [List.filterMap_append, List.filterMap_eq_nil_iff.mpr heye]
  rfl

/-- A scene that is drawn to its end has a circle for every food and then a polygon for every animal. -/
private theorem marks_ofWorld {config : Config} {world : World} (h : (ofWorld config world).fault = none) :
    (ofWorld config world).calls.filterMap Primitive.mark? =
      List.replicate world.foods.length .circle ++ List.replicate world.animals.length .polygon := by
  obtain ⟨size, hsize, hparts⟩ := Picture.fault_ofExcept.mp (Picture.fault_andThen.mp h).2
  obtain ⟨hfoods, hanimals⟩ := Picture.fault_andThen.mp hparts
  have hcalls : (ofWorld config world).calls =
      .clear :: ((Picture.each world.foods (ofFood size)).calls ++
        (Picture.each world.animals (ofAnimal config size)).calls) := by
    unfold ofWorld
    rw [hsize]
    show Primitive.clear :: (Picture.andThen _ _).calls = _
    rw [Picture.calls_andThen _ hfoods]
  rw [hcalls, List.filterMap_cons_none rfl, List.filterMap_append,
    Picture.filterMap_each (fun _ _ => marks_ofFood) hfoods,
    Picture.filterMap_each (fun _ _ _ => marks_ofAnimal) hanimals]

/-- The circles and triangles of a scene are opaque. -/
private theorem stays_of_mem_ofWorld (config : Config) (world : World) :
    ∀ p ∈ (ofWorld config world).calls, p.Stays := by
  have hfood : ∀ size food, ∀ p ∈ (ofFood size food).calls, p.Stays := by
    intro size food
    exact Picture.forall_ofExcept fun radius => List.forall_mem_singleton.mpr rfl
  have hanimal : ∀ size animal, ∀ p ∈ (ofAnimal config size animal).calls, p.Stays := by
    intro size animal
    refine Picture.forall_andThen (List.forall_mem_singleton.mpr rfl) (Picture.forall_ofExcept fun e p hp => ?_)
    obtain ⟨_, _, _, rfl⟩ := exists_eq_arc_of_mem_arcs e.2 animal.vision p hp
    trivial
  refine Picture.forall_andThen (List.forall_mem_singleton.mpr trivial) (Picture.forall_ofExcept fun size => ?_)
  exact Picture.forall_andThen (Picture.forall_each (hfood size) world.foods)
    (Picture.forall_each (hanimal size) world.animals)

end Scene

namespace Viewport

private theorem marks_paintPicture_eq (made : Nat) (picture : Picture Primitive) :
    marks on.id (paintPicture on made picture).calls = marks on.id (paintAll on made picture.calls).calls := by
  unfold paintPicture Picture.andThen
  cases (paintAll on made picture.calls).fault <;> simp

theorem marks_paintPicture [Memory] {made : Nat} {config : Config} {world : World}
    (h : (paintPicture on made (Scene.ofWorld config world)).fault = none) :
    marks on.id (paintPicture on made (Scene.ofWorld config world)).calls =
      List.replicate world.foods.length .circle ++ List.replicate world.animals.length .polygon := by
  obtain ⟨hpainted, hscene⟩ := Picture.fault_andThen.mp h
  have hmarks := (marks_paintAll on made (Scene.stays_of_mem_ofWorld config world)).2 hpainted
  rw [marks_paintPicture_eq, hmarks, Scene.marks_ofWorld hscene]

/-- No picture of a scene is flipped. -/
private theorem flip_notMem_paintPicture [Memory] (made : Nat) (config : Config) (world : World) :
    .flip ∉ marks on.id (paintPicture on made (Scene.ofWorld config world)).calls := by
  intro hflip
  rw [marks_paintPicture_eq] at hflip
  have hinit := (marks_paintAll on made (Scene.stays_of_mem_ofWorld config world)).1
  obtain ⟨p, -, hp⟩ := List.mem_filterMap.mp (hinit.subset hflip)
  cases p <;> cases hp

end Viewport

/-! ### Frames -/

namespace Panel

private theorem mark?_of_mem_rowCalls {on : SurfaceId} (hon : on ≠ .screen) (canvas : SurfaceId) (lineHeight top : Int)
    (rows : List String) : ∀ call ∈ rowCalls on lineHeight top rows, call.mark? canvas = none := by
  induction rows generalizing top with
  | nil => exact List.forall_mem_nil _
  | cons row rows ih =>
    refine List.forall_mem_append.mpr ⟨?_, ih (top + lineHeight)⟩
    split
    · exact List.forall_mem_nil _
    · cases on with
      | screen => exact absurd rfl hon
      | made i => exact List.forall_mem_singleton.mpr rfl

/-- A panel is drawn on its own surface, without circles and polygons. -/
private theorem marks_draw {p : Panel} (hp : p.surface ≠ .screen) (canvas : SurfaceId) (font : Font) :
    marks canvas (p.draw font).2.calls = [] := by
  unfold draw
  dsimp only
  split
  · rfl
  · generalize max 1 ((p.height - inputHeight font - padding).fdiv font.lineHeight) = count
    split
    · rfl
    · rename_i q rows hvisible
      obtain ⟨scrollBack, rfl⟩ := exists_visible_eq hvisible
      have hrows := marks_eq_nil (mark?_of_mem_rowCalls hp canvas font.lineHeight padding rows)
      split
      · rw [marks_append, hrows]
        rfl
      · simp only [Picture.emit, marks_append, hrows, inputCalls]
        cases hs : p.surface with
        | screen => exact absurd hs hp
        | made i => rfl

private theorem marks_resize [Memory] {p : Panel} (hp : p.surface ≠ .screen) (canvas : SurfaceId) (made : Nat)
    (x height : Int) :
    (p.resize made x height).1.surface ≠ .screen ∧ marks canvas (p.resize made x height).2.calls = [] := by
  unfold resize
  dsimp only
  split
  · exact ⟨hp, rfl⟩
  · split
    · exact ⟨hp, rfl⟩
    · rename_i hmake
      obtain ⟨size, -, hmake⟩ := Fault.bind_eq_ok_iff.mp hmake
      obtain ⟨rfl, rfl⟩ := Prod.mk.inj (Except.ok.inj hmake)
      exact ⟨nofun, rfl⟩

end Panel

/-- A frame with a scene leaves the session that it shows. -/
private theorem Session.session_redraw_of_scene [Memory] {E : Engine} {s : Session E} {world : World}
    {scene : Picture Primitive} (h : s.redraw.scene = .ok (world, scene)) : s.redraw.session = s.shown := by
  unfold redraw at h ⊢
  unfold shown
  split
  · rename_i hactive
    rw [if_pos hactive] at h
    split at h
    · cases h
    · rename_i hstep
      rw [hstep]
  · rfl

namespace Window

variable {E : Engine} {w : Window E} {font : Font} {time : Float} {canvas : Surface} {last : Option World}

/-- The status line for some numbers of animals and foods and a frame rate. -/
def statusText (active : Bool) (animals foods : Nat) (rate : Float) : String :=
  (if active then "" else "[PAUSED]  ") ++ "Animals: " ++ toString animals ++ "  |  Foods: " ++ toString foods
    ++ "  |  FPS: " ++ Decimal.fixed 0 rate

private theorem statusLine_eq {world : World} (h : w.lastWorld = some world) (rate : Float) :
    w.statusLine rate = statusText w.session.active world.animals.length world.foods.length rate := by
  unfold statusLine
  rw [h]
  rfl

/-- Whether a line starts with the note that the simulation is paused. -/
def SaysPaused (line : String) : Prop := "[PAUSED]  ".toList <+: line.toList

instance (line : String) : Decidable (SaysPaused line) := inferInstanceAs (Decidable (_ <+: _))

/-- The note stands in front of the line of a paused simulation only. -/
private theorem saysPaused_statusText (active : Bool) (animals foods : Nat) (rate : Float) :
    SaysPaused (statusText active animals foods rate) ↔ active = false := by
  unfold SaysPaused statusText
  cases active with
  | true => simp [String.toList_append]
  | false => simp [String.toList_append]

/-- Whether a status line is the only text of a frame, and true of it: it tells the numbers of polygons and circles on
the canvas, and it says that the simulation is paused if and only if the frame did not let it step. -/
structure Describes (line : String) (seen : List Mark) (before after : Window E) : Prop where
  text_eq : seen.filterMap Mark.text? = [line]
  line_eq : ∃ active, line = statusText active (seen.count .polygon) (seen.count .circle) (frameRate after.frameTimes)
  paused_iff : SaysPaused line ↔ after.session.simulation.steps = before.session.simulation.steps
  session_eq : after.session = if SaysPaused line then before.session else before.session.step.2

section Frames

variable [Memory]

private theorem marks_drawPanel (hp : w.panel.surface ≠ .screen) (canvas : SurfaceId) (font : Font) :
    marks canvas (w.drawPanel font).2.calls = [] := by
  obtain ⟨hsurface, hresized⟩ := Panel.marks_resize hp canvas w.surfaces w.width w.height
  have hdrawn := Panel.marks_draw hsurface canvas font
  unfold drawPanel
  dsimp only
  split
  · rfl
  · split
    · exact hresized
    · rename_i hf
      rw [Picture.calls_andThen _ hf, marks_append, hresized, hdrawn]
      rfl

/-- The status line is the only text on the screen. -/
theorem marks_drawStatus (canvas : SurfaceId) (h : w.drawStatus.2.fault = none) :
    marks canvas w.drawStatus.2.calls =
      if w.statusShown then [.text (w.statusLine (frameRate w.frameTimes))] else [] := by
  unfold drawStatus at h ⊢
  by_cases hs : w.statusShown = true
  · have hnot : ¬ (!w.statusShown) = true := by simp [hs]
    rw [if_neg hnot] at h ⊢
    rw [if_pos hs]
    dsimp only at h ⊢
    split
    · rename_i hmake
      rw [hmake] at h
      cases h
    · rename_i hmake
      obtain ⟨_, -, hcall⟩ := Fault.bind_eq_ok_iff.mp hmake
      obtain ⟨-, rfl⟩ := Prod.mk.inj (Except.ok.inj hcall)
      rfl
  · rw [if_neg hs, if_pos (by simp [hs])]
    rfl

/-- A redraw that is not cut short draws the world that it remembers, as it is after the step of the session. -/
private theorem marks_redraw (hr : w.renderer = some ⟨canvas, last⟩) (h : w.redraw.2.fault = none) :
    ∃ world, w.redraw.1.lastWorld = some world ∧ w.redraw.1.session = w.session.shown ∧
      marks canvas.id w.redraw.2.calls =
        List.replicate world.foods.length .circle ++ List.replicate world.animals.length .polygon := by
  unfold redraw at h ⊢
  rw [hr] at h ⊢
  dsimp only at h ⊢
  split
  · rename_i hscene
    rw [hscene] at h
    cases h
  · rename_i world scene hscene
    rw [hscene] at h
    obtain ⟨config, rfl⟩ := Session.exists_scene_eq hscene
    exact ⟨world, rfl, Session.session_redraw_of_scene hscene, Viewport.marks_paintPicture h⟩

private theorem ne_flip_redraw (w : Window E) : ∀ call ∈ w.redraw.2.calls, call ≠ .flip := by
  rintro call hcall rfl
  unfold redraw at hcall
  split at hcall
  · cases hcall
  · rename_i renderer hr
    dsimp only at hcall
    split at hcall
    · cases hcall
    · rename_i hscene
      obtain ⟨config, rfl⟩ := Session.exists_scene_eq hscene
      exact Viewport.flip_notMem_paintPicture _ config _ (flip_mem_marks_iff.mpr hcall)

private theorem ne_flip_drawStatus (w : Window E) : ∀ call ∈ w.drawStatus.2.calls, call ≠ .flip := by
  unfold drawStatus
  split
  · exact List.forall_mem_nil _
  · dsimp only
    split
    · exact List.forall_mem_nil _
    · rename_i hmake
      obtain ⟨_, -, hcall⟩ := Fault.bind_eq_ok_iff.mp hmake
      obtain ⟨-, rfl⟩ := Prod.mk.inj (Except.ok.inj hcall)
      simp [Picture.emit]

variable {width height : Int}

/-- Before its panel is drawn, a frame of an open window leaves the surface and the height of the panel alone, and
whether there is a status line. -/
private theorem Opened.lined (h : w.Opened width height) (hredraw : w.redraw.2.fault = none)
    (hstatus : (w.redraw.1.countFrame time).drawStatus.2.fault = none) :
    let lined := (w.redraw.1.countFrame time).drawStatus.1
    lined.panel.surface ≠ .screen ∧ lined.panel.height = lined.height ∧ lined.session = w.redraw.1.session ∧
      lined.frameTimes = (w.redraw.1.countFrame time).frameTimes ∧ w.redraw.1.statusShown = w.statusShown := by
  obtain ⟨canvas, last, hrenderer, hcanvas⟩ := h.canvas
  obtain ⟨_, _, _, _, _, hdrawn, -⟩ := exists_redraw_eq hrenderer (by simp [hcanvas]) hredraw
  obtain ⟨_, hlined, -⟩ := exists_drawStatus_eq hstatus
  intro lined
  refine ⟨?_, ?_, ?_, ?_, ?_⟩
  · show (w.redraw.1.countFrame time).drawStatus.1.panel.surface ≠ _
    rw [hlined, hdrawn]
    show w.panel.surface ≠ _
    rw [h.panelSurface]
    exact nofun
  · show (w.redraw.1.countFrame time).drawStatus.1.panel.height = (w.redraw.1.countFrame time).drawStatus.1.height
    rw [hlined, hdrawn]
    exact h.panelHeight.trans h.height_eq.symm
  · show (w.redraw.1.countFrame time).drawStatus.1.session = _
    rw [hlined]
    rfl
  · show (w.redraw.1.countFrame time).drawStatus.1.frameTimes = _
    rw [hlined]
  · rw [hdrawn]

/-- A frame is not flipped while it is drawn. -/
private theorem Opened.ne_flip_frame (h : w.Opened width height) :
    ∀ call ∈ (w.frame font time).2.calls, call ≠ .flip := by
  have hshow : ∀ v : Window E, ∀ call ∈ v.showCanvas.calls, call ≠ .flip := by
    intro v
    unfold showCanvas
    split <;> simp [Picture.done, Picture.emit]
  unfold Window.frame
  dsimp only
  split
  · exact w.ne_flip_redraw
  · rename_i hredraw
    have hfirst := Picture.forall_andThen
      (Picture.forall_andThen w.ne_flip_redraw (hshow (w.redraw.1.countFrame time).drawStatus.1))
      (ne_flip_drawStatus (w.redraw.1.countFrame time))
    split
    · exact hfirst
    · rename_i hstatus
      obtain ⟨hsurface, -⟩ := h.lined (by simpa using hredraw) (by simpa using hstatus)
      refine Picture.forall_andThen hfirst ?_
      rintro call hcall rfl
      have hpanel : .flip ∈ marks .screen ((w.redraw.1.countFrame time).drawStatus.1.drawPanel font).2.calls :=
        flip_mem_marks_iff.mpr hcall
      rw [marks_drawPanel hsurface] at hpanel
      cases hpanel

/-- A frame that is drawn to its end draws a circle on the canvas for every food of a world and a polygon for every
animal, and then writes the status line, if it is not hidden. -/
private theorem Opened.marks_frame (h : w.Opened width height) (hf : (w.frame font time).2.fault = none) :
    ∃ canvas last, ∃ world : World, w.renderer = some ⟨canvas, last⟩ ∧ (w.frame font time).1.session = w.session.shown ∧
      marks canvas.id (w.frame font time).2.calls =
        List.replicate world.foods.length .circle ++ List.replicate world.animals.length .polygon ++
          if w.statusShown then
            [.text (statusText w.session.active world.animals.length world.foods.length
              (frameRate (w.frame font time).1.frameTimes))]
          else [] := by
  obtain ⟨⟨hredraw, hstatus, hpanel⟩, hw, hcalls⟩ := frame_eq hf
  obtain ⟨canvas, last, hrenderer, -⟩ := h.canvas
  obtain ⟨world, hworld, hsession, hscene⟩ := marks_redraw hrenderer hredraw
  obtain ⟨hsurface, hheight, hkept, htimes, hstatusShown⟩ := h.lined hredraw hstatus
  obtain ⟨_, _, _, hshown, -⟩ := exists_drawPanel_eq hheight hpanel
  have hline := statusLine_eq (w := w.redraw.1.countFrame time) hworld
    (frameRate (w.redraw.1.countFrame time).frameTimes)
  have hactive : (w.redraw.1.countFrame time).session.active = w.session.active := by
    show w.redraw.1.session.active = _
    rw [hsession]
    unfold Session.shown
    split <;> rfl
  have hshow : marks canvas.id (w.redraw.1.countFrame time).drawStatus.1.showCanvas.calls = [] := by
    unfold showCanvas
    split <;> rfl
  have hcounted : (w.redraw.1.countFrame time).statusShown = w.statusShown := hstatusShown
  refine ⟨canvas, last, world, hrenderer, ?_, ?_⟩
  · rw [hw, hshown, ← hsession]
    exact hkept
  · rw [hcalls, marks_append, marks_append, marks_append, hscene, hshow, marks_drawStatus canvas.id hstatus,
      marks_drawPanel hsurface, List.append_nil, List.append_nil, hline, hactive, hcounted, hw, hshown, htimes]

/-- After a frame that is drawn to its end, an open window with a status line has one that is true of the frame. -/
theorem Opened.describes_frame {time : Nat → Float} (h : w.Opened width height)
    (hf : (w.frame font (time w.timed)).2.fault = none) :
    ∃ canvas last, w.renderer = some ⟨canvas, last⟩ ∧
      let seen := marks canvas.id (w.live font time .frame).2
      let after := (w.live font time .frame).1
      seen.count .flip = 1 ∧
        if w.statusShown then ∃ line, Describes line seen w after else seen.filterMap Mark.text? = [] := by
  obtain ⟨canvas, last, world, hrenderer, hsession, hframe⟩ := h.marks_frame hf
  refine ⟨canvas, last, hrenderer, ?_⟩
  intro seen after
  have hseen : seen = marks canvas.id (w.frame font (time w.timed)).2.calls ++ [.flip] := marks_append _ _ _
  have hsession : after.session = if w.session.active then w.session.step.2 else w.session := hsession
  rw [hframe] at hseen
  have hcircles : seen.count .circle = world.foods.length := by
    rw [hseen]
    split <;> simp [List.count_replicate]
  have hpolygons : seen.count .polygon = world.animals.length := by
    rw [hseen]
    split <;> simp [List.count_replicate]
  have hflips : seen.count .flip = 1 := by
    rw [hseen]
    split <;> simp [List.count_replicate]
  have htexts : seen.filterMap Mark.text? =
      (if w.statusShown then [.text (statusText w.session.active world.animals.length world.foods.length
        (frameRate after.frameTimes))] else []).filterMap Mark.text? := by
    rw [hseen, List.filterMap_append, List.filterMap_append, List.filterMap_append,
      List.filterMap_replicate_of_none rfl, List.filterMap_replicate_of_none rfl]
    exact List.append_nil _
  refine ⟨hflips, ?_⟩
  split
  · rename_i hshown
    have hpaused := saysPaused_statusText w.session.active world.animals.length world.foods.length
      (frameRate after.frameTimes)
    refine ⟨_, ?_, ⟨w.session.active, by rw [hpolygons, hcircles]⟩, ?_, ?_⟩
    · rw [htexts, if_pos hshown]
      rfl
    · rw [hpaused, hsession]
      cases w.session.active <;> simp [Session.step]
    · rw [hsession, if_congr hpaused rfl rfl]
      cases w.session.active <;> rfl
  · rename_i hshown
    rw [htexts, if_neg hshown]
    rfl

/-! ### Runs -/

/-- Events leave an open window open and mark nothing. -/
private theorem Opened.marks_play_events (h : w.Opened width height) (font : Font) (time : Nat → Float)
    (events : List Event) :
    (w.play font time (events.map .event)).1.Opened width height ∧
      ∀ canvas, marks canvas (w.play font time (events.map .event)).2 = [] := by
  induction events generalizing w with
  | nil => exact ⟨h, fun _ => rfl⟩
  | cons event events ih =>
    obtain ⟨hopened, -, -⟩ := h.handle event
    obtain ⟨hrest, hmarks⟩ := ih hopened
    have hfirst : ∀ canvas, marks canvas (w.handle event).2.calls = [] := by
      obtain ⟨_, _, _, _, _, -, hpicture⟩ := w.exists_handle_eq event
      rw [hpicture, hopened.setMode_eq]
      split <;> exact fun _ => rfl
    refine ⟨hrest, fun canvas => ?_⟩
    show marks canvas ((w.handle event).2.calls ++ ((w.handle event).1.play font time (events.map .event)).2) = []
    rw [marks_append, hfirst, hmarks]
    rfl

/-- If what is drawn from one time that events are asked for to the next is flipped, it is a frame of the window as the
events up to then have left it, and no more than that is marked. -/
theorem Opened.loop_getElem? {time : Nat → Float} (h : w.Opened width height) {batches : List (List Event)} {i : Nat}
    {calls : List (Call Number)} (hcalls : (loop font time w batches).batches[i]? = some calls)
    (hflip : .flip ∈ calls) :
    ∃ earlier events later handled, batches = earlier ++ events :: later ∧ i = earlier.length ∧
      let before := (w.play font time (moments earlier events)).1
      before.Opened width height ∧ (before.frame font (time before.timed)).2.fault = none ∧
        (∀ canvas, marks canvas handled = []) ∧ calls = handled ++ (before.live font time .frame).2 := by
  -- the window is what the batches so far have left of it
  induction batches generalizing w i with
  | nil =>
    obtain ⟨-, hmarks⟩ := h.marks_play_events font time [.quit]
    unfold loop at hcalls
    rw [h.drain_eq font time] at hcalls
    obtain rfl := List.mem_singleton.mp (List.mem_of_getElem? hcalls)
    exact absurd hflip (by simpa [Picture.emit, Picture.andThen] using flip_notMem_of_marks hmarks)
  | cons events batches ih =>
    obtain ⟨hopened, hmarks⟩ := h.marks_play_events font time events
    have hdrain := h.drain_eq font time events
    by_cases hgo : (w.play font time (events.map .event)).1.running = true
    · by_cases hf : ((w.play font time (events.map .event)).1.frame font
        (time (w.play font time (events.map .event)).1.timed)).2.fault = none
      · rw [loop_cons batches hdrain hgo hf] at hcalls
        cases i with
        | zero =>
          obtain rfl := Option.some.inj hcalls
          exact ⟨[], events, batches, _, rfl, rfl, hopened, hf, hmarks, rfl⟩
        | succ i =>
          obtain ⟨earlier, last, later, handled, rfl, rfl, hbefore⟩ := ih (hopened.frame hf).1 hcalls
          refine ⟨events :: earlier, last, later, handled, rfl, rfl, ?_⟩
          rw [moments_cons, play_append, play_batch]
          exact hbefore
      · -- the frame fails, and so it is not flipped
        have hcut : ¬ ((Picture.emit (w.play font time (events.map .event)).2).andThen
            ((w.play font time (events.map .event)).1.frame font
              (time (w.play font time (events.map .event)).1.timed)).2).fault = none :=
          fun h => hf (Picture.fault_andThen.mp h).2
        rw [loop, hdrain] at hcalls
        dsimp only at hcalls
        rw [if_neg (by simp [Picture.emit]), if_neg (by simp [hgo]),
          if_pos (Option.isSome_iff_ne_none.mpr hcut)] at hcalls
        obtain rfl := List.mem_singleton.mp (List.mem_of_getElem? hcalls)
        rw [Picture.calls_andThen _ rfl, List.mem_append] at hflip
        exact (hflip.elim (flip_notMem_of_marks hmarks) fun hmem => hopened.ne_flip_frame _ hmem rfl).elim
    · rw [loop, hdrain] at hcalls
      dsimp only at hcalls
      rw [if_neg (by simp [Picture.emit]), if_pos (by simp [hgo])] at hcalls
      obtain rfl := List.mem_singleton.mp (List.mem_of_getElem? hcalls)
      exact absurd hflip (by simpa [Picture.emit, Picture.andThen] using flip_notMem_of_marks hmarks)

/-- What is drawn before events are asked for is not flipped. -/
private theorem ne_flip_opening (w : Window E) (font : Font) (time : Nat → Float) (batches : List (List Event))
    {calls : List (Call Number)} (hcalls : (w.run font time batches).batches[0]? = some calls) : .flip ∉ calls := by
  have hstart : .flip ∉ w.start.calls := by
    unfold start setMode
    cases Surface.size w.totalWidth w.height <;>
      simp [Picture.ofExcept, Picture.stop, Picture.done, Picture.emit, Picture.andThen]
  unfold run at hcalls
  split at hcalls
  · obtain rfl := Option.some.inj hcalls
    exact hstart
  · rename_i hs
    have hs : w.start.fault = none := by simpa using hs
    split at hcalls
    · obtain rfl := Option.some.inj hcalls
      simpa [Picture.calls_andThen _ hs, Picture.stop] using hstart
    · rename_i hbuild
      obtain ⟨⟨_, made⟩, hcanvas, heq⟩ := Fault.bind_eq_ok_iff.mp hbuild
      obtain ⟨_, -, hcanvas⟩ := Fault.bind_eq_ok_iff.mp hcanvas
      obtain ⟨-, rfl⟩ := Prod.mk.inj (Except.ok.inj hcanvas)
      obtain ⟨-, rfl⟩ := Prod.mk.inj (Except.ok.inj heq)
      split at hcalls
      · obtain rfl := Option.some.inj hcalls
        simpa [Picture.calls_andThen _ hs, Picture.emit] using hstart
      · obtain rfl := Option.some.inj hcalls
        rw [Picture.calls_andThen _ (Picture.fault_andThen.mpr ⟨hs, rfl⟩), Picture.calls_andThen _ hs]
        simpa [Picture.emit] using hstart

/-- In every run of a window that was just made, what is drawn from one time that events are asked for to the next and
flipped is one frame, of the window as all events before have left it.  If the status line is not hidden then, it is
the only text and true of the frame; if it is hidden there is no text. -/
theorem status_of_run {scenario : Option String} {call : Call Number}
    (hw : make E width height scenario = .ok (w, call)) (font : Font) (time : Nat → Float)
    (batches : List (List Event)) {i : Nat} {calls : List (Call Number)}
    (hcalls : (w.run font time batches).batches[i]? = some calls) (hflip : .flip ∈ calls) :
    ∃ opened earlier events later canvas last,
      w.Opens opened ∧ batches = earlier ++ events :: later ∧ i = earlier.length + 1 ∧
      let before := (opened.play font time (moments earlier events)).1
      let after := (before.frame font (time before.timed)).1
      let seen := marks canvas.id calls
      before.renderer = some ⟨canvas, last⟩ ∧ seen.count .flip = 1 ∧
        if before.statusShown then ∃ line, Describes line seen before after else seen.filterMap Mark.text? = [] := by
  cases i with
  | zero => exact absurd hflip (ne_flip_opening w font time batches hcalls)
  | succ i =>
    obtain ⟨hlength, -⟩ := List.getElem?_eq_some_iff.mp hcalls
    obtain ⟨opened, hstart, call', hbuild⟩ :=
      (asks_iff hw batches).mpr (Nat.lt_of_le_of_lt (Nat.le_add_left 1 i) hlength)
    obtain ⟨hr, htracks, -⟩ := tracks_of_opens hw hstart hbuild
    rw [run_eq batches hstart hbuild hr] at hcalls
    obtain ⟨earlier, events, later, handled, hbatches, hi, hopened, hf, hmarks, rfl⟩ :=
      htracks.opened.loop_getElem? hcalls hflip
    obtain ⟨canvas, last, hrenderer, hcount, hline⟩ := hopened.describes_frame hf
    rw [← List.nil_append (marks _ _), ← hmarks canvas.id, ← marks_append] at hcount hline
    exact ⟨opened, earlier, events, later, canvas, last, ⟨hstart, call', hbuild⟩, hbatches, by rw [hi], hrenderer,
      hcount, hline⟩

end Frames

/-- A world with an animal that sees nothing and two foods. -/
def pasture : World := ⟨[⟨.real 0.5, .real 0.5, .real 0.0, []⟩], [⟨.real 0.1, .real 0.2⟩, ⟨.real 0.3, .real 0.4⟩]⟩

/-- Before the frame a line is rejected, the simulation is reset and then paused, and the panel is hidden. -/
theorem status_of_run_pasture :
    let events : List Event :=
      [.text "q", .keyDown .enter, .text "r", .keyDown .enter, .text "p", .keyDown .enter, .keyDown .tab]
    ∃ w call calls, make (Engine.scripted (Session.staged pasture 0)) 800 600 none = .ok (w, call) ∧
      (w.run ⟨16, 8⟩ (fun _ => 0.0) [events]).batches[1]? = some calls ∧ .flip ∈ calls ∧
      ∃ line rate, (marks (.made 1) calls).filterMap Mark.text? = [line] ∧ line = statusText false 1 2 rate ∧
        SaysPaused line := by
  intro events
  obtain ⟨w, call, calls, hw, hcalls, hflip, hpolygons, hcircles, hopens⟩ : ∃ w call calls,
      make (Engine.scripted (Session.staged pasture 0)) 800 600 none = .ok (w, call) ∧
      (w.run ⟨16, 8⟩ (fun _ => 0.0) [events]).batches[1]? = some calls ∧ .flip ∈ calls ∧
      (marks (.made 1) calls).count .polygon = 1 ∧ (marks (.made 1) calls).count .circle = 2 ∧
      ∀ opened, w.Opens opened →
        let before := (opened.play ⟨16, 8⟩ (fun _ => 0.0) (moments [] events)).1
        before.statusShown = true ∧ before.renderer.map (·.canvas.id) = some (.made 1) ∧
          (before.frame ⟨16, 8⟩ 0.0).1.session.simulation.steps = 0 ∧ before.session.simulation.steps = 0 := by
    refine ⟨_, _, _, rfl, rfl, List.mem_append_right _ List.mem_cons_self, rfl, rfl, ?_⟩
    rintro opened ⟨-, _, hbuild⟩
    cases hbuild
    exact ⟨rfl, rfl, by decide +kernel, rfl⟩
  obtain ⟨opened, earlier, last, later, canvas, _, hopened, hbatches, hi, hrenderer, -, hline⟩ :=
    status_of_run hw ⟨16, 8⟩ (fun _ => 0.0) [events] hcalls hflip
  obtain rfl : earlier = [] := List.length_eq_zero_iff.mp (by omega)
  obtain ⟨rfl, rfl⟩ := List.cons.inj hbatches
  obtain ⟨hshown, hcanvas, hafter, hbefore⟩ := hopens opened hopened
  have hid : canvas.id = .made 1 := by simpa [hrenderer] using hcanvas
  rw [if_pos hshown, hid] at hline
  obtain ⟨line, hdescribes⟩ := hline
  have hpaused := hdescribes.paused_iff.mpr (hafter.trans hbefore.symm)
  obtain ⟨active, hactive⟩ := hdescribes.line_eq
  rw [hpolygons, hcircles] at hactive
  obtain rfl : active = false := by rwa [hactive, saysPaused_statusText] at hpaused
  exact ⟨w, call, calls, hw, hcalls, hflip, line, _, hdescribes.text_eq, hactive, hpaused⟩

end Window

end Aviary
