import Aviary.Engine.Scripted
import Aviary.Proofs.History
import Aviary.Proofs.Scene

/-!
# What a frame draws

The shapes of a world, in the order in which a frame draws them: the food, and then every animal with the arcs of its
eye.  The picture of a list of arcs ends with the last cell that has a reading (`arcs_eq`), so the picture of an animal
is cut short exactly if it has less readings than cells (`ofAnimal_eq`), and the scene of a world ends with the first
such animal.  All of this needs memory for the spans of an eye (`Spannable`); without it nothing of the first eye is
drawn (`ofAnimal_of_denied`, `exists_redraw_noMemory`).  The main statement, on the frames of a session, is
`redraw_shows`.
-/

namespace Aviary

namespace Scene

open Fault Number

/-- Whether an animal faces a real direction and senses nothing that is undefined. -/
structure Aware (animal : Animal) : Prop where
  rotation : ∃ r, animal.rotation = .real r
  defined : ∀ energy ∈ animal.vision, energy.value ≠ .undefined

/-- The direction that an animal faces. -/
def heading (animal : Animal) : Float :=
  match animal.rotation with
  | .real r => r
  | .whole n => Binary64.ofInt n

/-- The colour of a cell that senses an energy, which is not undefined. -/
def cellColor (energy : Number) : Color :=
  match eyeColor energy with
  | .ok color => color
  | .error _ => .eye 0

/-- The arc of the cell with number `i`, which senses `energy`: one of `cells` equal parts of the field of view. -/
def cellArc (size fov : Float) (cells : Int) (animal : Animal) (i : Nat) (energy : Number) : Primitive :=
  let span := spanFrom (heading animal - fov / 2.0) (fov / Binary64.ofInt cells) i
  .arc animal.x animal.y (.real (size * 2.5)) span.1 span.2 (cellColor energy)

/-- The triangle of an animal and the arcs of its cells, as far as there are readings for them. -/
def animalShapes (size fov : Float) (cells : Int) (animal : Animal) : List Primitive :=
  .triangle animal.x animal.y (.real size) animal.rotation .animal ::
    List.zipWith (cellArc size fov cells animal) (List.range cells.toNat) animal.vision

def foodCircle (size : Float) (food : Food) : Primitive := .circle food.x food.y (.real (size / 2.0)) .food

/-- The shapes of some food and some animals on a cleared canvas. -/
def shapes (size fov : Float) (cells : Int) (foods : List Food) (animals : List Animal) : List Primitive :=
  .clear :: (foods.map (foodCircle size) ++ animals.flatMap (animalShapes size fov cells))

private theorem eyeColor_eq {energy : Number} (h : energy.value ≠ .undefined) :
    eyeColor energy = .ok (cellColor energy) := by
  obtain ⟨color, hcolor⟩ := exists_eyeColor h
  unfold cellColor
  rw [hcolor]

/-- Arcs are drawn as long as there are readings, and a span without one ends the picture. -/
theorem arcs_eq {x y radius : Number} {spans : List (Number × Number)} {readings : List Number}
    (hdef : ∀ energy ∈ readings, energy.value ≠ .undefined) :
    arcs x y radius spans readings =
      ⟨List.zipWith (fun span energy => .arc x y radius span.1 span.2 (cellColor energy)) spans readings,
        if spans.length ≤ readings.length then none else some .missingReading⟩ := by
  induction spans generalizing readings with
  | nil => rfl
  | cons span spans ih =>
    cases readings with
    | nil => rfl
    | cons energy readings =>
      obtain ⟨henergy, hreadings⟩ := List.forall_mem_cons.mp hdef
      show Picture.ofExcept (eyeColor energy) _ = _
      rw [eyeColor_eq henergy]
      show (Picture.emit [_]).andThen (arcs x y radius spans readings) = _
      rw [ih hreadings]
      simp only [List.zipWith_cons_cons, List.length_cons, Nat.add_le_add_iff_right]
      rfl

private theorem each_ofFood {size : Float} (foods : List Food) :
    Picture.each foods (ofFood (.real size)) = .emit (foods.map (foodCircle size)) := by
  rw [List.map_eq_flatMap]
  exact Picture.each_eq_emit fun _ _ => rfl

/-! ### Memory for the spans of an eye -/

section Eye

variable [Memory]

/-- Whether the spans of an eye with so many cells can be made, with memory for everything that they ask for.  An eye
without cells has none. -/
def Spannable (cells : Int) : Prop := 0 < cells → ∀ r ∈ Request.spans cells.toNat .whole, Memory.holds r = true

instance (cells : Int) : Decidable (Spannable cells) := by
  unfold Spannable
  infer_instance

/-- Whether the spans of an eye can be made, if some animal has one. -/
def Room (cells : Int) (animals : List Animal) : Prop := animals = [] ∨ Spannable cells

/-- What a picture shows of a world: all its shapes; or those up to the last reading of the first animal that lacks one;
or, if the spans of an eye cannot be made, those up to the first animal's triangle. -/
inductive Depicts (size fov : Float) (cells : Int) (world : World) : Picture Primitive → Prop
  | complete (hroom : Room cells world.animals) (hall : ∀ animal ∈ world.animals, cells ≤ animal.vision.length) :
      Depicts size fov cells world ⟨shapes size fov cells world.foods world.animals, none⟩
  | cut {before after : List Animal} {animal : Animal} (hm : Spannable cells)
      (hw : world.animals = before ++ animal :: after) (hb : ∀ other ∈ before, cells ≤ other.vision.length)
      (ha : animal.vision.length < cells) :
      Depicts size fov cells world ⟨shapes size fov cells world.foods (before ++ [animal]), some .missingReading⟩
  | noMemory {animal : Animal} {after : List Animal} {element : Option Kind} (hm : ¬ Spannable cells)
      (hd : Memory.grant (Request.spans cells.toNat .whole) = .error (.noMemory cells.toNat element))
      (hw : world.animals = animal :: after) :
      Depicts size fov cells world
        ⟨.clear :: (world.foods.map (foodCircle size) ++
          [.triangle animal.x animal.y (.real size) animal.rotation .animal]), some (.noMemory cells.toNat element)⟩

/-- Where the spans of an eye can be made, a picture is cut short if and only if an animal lacks a reading. -/
private theorem Depicts.fault_eq {size fov : Float} {cells : Int} {world : World} {picture : Picture Primitive}
    (h : Depicts size fov cells world picture) (hroom : Room cells world.animals) :
    picture.fault =
      if ∃ animal ∈ world.animals, animal.vision.length < cells then some .missingReading else none := by
  cases h with
  | complete _ hall =>
    rw [if_neg]
    rintro ⟨animal, ha, hlt⟩
    have hle := hall animal ha
    omega
  | @cut before after animal _ hw _ ha =>
    have hin : animal ∈ world.animals := by simp [hw]
    exact (if_pos ⟨animal, hin, ha⟩).symm
  | noMemory hm _ hw => exact absurd (hroom.resolve_left (by simp [hw])) hm

/-- If the spans of an eye cannot be made, memory is denied for an array or for a list, of as many elements as there
are cells. -/
private theorem exists_grant_eq_error {cells : Int} (h : ¬ Spannable cells) :
    0 < cells ∧
      ∃ element, Memory.grant (Request.spans cells.toNat .whole) = .error (.noMemory cells.toNat element) := by
  obtain ⟨hpos, hdenied⟩ := Classical.not_imp.mp h
  refine ⟨hpos, ?_⟩
  rw [← Memory.grant_eq_ok_iff] at hdenied
  cases hg : Memory.grant (Request.spans cells.toNat .whole) with
  | ok => exact absurd hg hdenied
  | error fault =>
    obtain ⟨r, hr, -, rfl⟩ := Memory.exists_of_grant_eq_error hg
    simp only [Request.spans, List.mem_cons, List.not_mem_nil, or_false] at hr
    rcases hr with rfl | rfl | rfl
    · exact ⟨some .whole, rfl⟩
    · exact ⟨some .real, rfl⟩
    · exact ⟨none, rfl⟩

/-! ### The eye of an animal -/

variable {r size fov : Float} {cells : Int}

private theorem eyeSpans_of_nonpos (h : cells ≤ 0) : eyeSpans (Number.real r) (.real fov) (.whole cells) = .ok [] :=
  if_pos (whole_le_iff.mpr h)

/-- An eye has a span for every cell, if they can be made. -/
private theorem eyeSpans_of_spannable (hlt : cells < 2 ^ 53) (hm : Spannable cells) :
    eyeSpans (.real r) (.real fov) (.whole cells) =
      .ok ((List.range cells.toNat).map (spanFrom (r - fov / 2.0) (fov / Binary64.ofInt cells))) := by
  by_cases hpos : 1 ≤ cells
  · have hcount : (Number.whole cells).count = .ok cells.toNat :=
      count_eq_ok_iff.mpr ⟨extent_whole hlt, hm (by omega)⟩
    have hdiv := real_div_whole (x := fov) (show cells ≠ 0 by omega) (count_whole hpos hcount).1
    exact eyeSpans_eq_map hpos rfl hdiv hcount
  · have hzero : cells.toNat = 0 := by omega
    rw [eyeSpans_of_nonpos (by omega), hzero]
    rfl

private theorem eyeSpans_of_denied (hpos : 0 < cells) (hlt : cells < 2 ^ 53) {fault : Fault}
    (hd : Memory.grant (Request.spans cells.toNat .whole) = .error fault) :
    eyeSpans (Number.real r) (.real fov) (.whole cells) = .error fault := by
  have hfloat : (Number.whole cells).HasFloat := hasFloat_of_natAbs_le (by omega)
  have hcount : (Number.whole cells).count = .error fault := by
    unfold count
    rw [extent_whole hlt]
    show (Memory.grant (Request.spans cells.toNat .whole) >>= _) = _
    rw [hd]
    rfl
  rw [eyeSpans_eq hpos, real_div_whole (by omega) hfloat, hcount]
  rfl

/-! ### Animals, food and worlds -/

variable {config : Config} {animal : Animal}

private theorem eye_eq (hfov : config.get "eye_fov_angle" = .ok (.real fov))
    (hcells : config.get "eye_cells" = .ok (.whole cells)) (hr : animal.rotation = .real r) :
    eye config (.real size) animal =
      (eyeSpans (.real r) (.real fov) (.whole cells) >>= fun spans => .ok (.real (size * 2.5), spans)) := by
  unfold eye
  rw [hfov, hcells, hr]
  rfl

/-- With the spans of its cells, the picture of an animal is cut short if and only if readings are missing. -/
theorem ofAnimal_eq (hfov : config.get "eye_fov_angle" = .ok (.real fov))
    (hcells : config.get "eye_cells" = .ok (.whole cells)) (hlt : cells < 2 ^ 53)
    (hm : Spannable cells) (ha : Aware animal) :
    ofAnimal config (.real size) animal =
      ⟨animalShapes size fov cells animal,
        if cells ≤ animal.vision.length then none else some .missingReading⟩ := by
  obtain ⟨r, hr⟩ := ha.rotation
  have hheading : heading animal = r := by
    unfold heading
    rw [hr]
  have hlen : (List.range cells.toNat).length ≤ animal.vision.length ↔ cells ≤ animal.vision.length := by
    rw [List.length_range]
    omega
  unfold ofAnimal
  rw [eye_eq hfov hcells hr, eyeSpans_of_spannable hlt hm]
  show (Picture.emit [_]).andThen (arcs animal.x animal.y _ ((List.range cells.toNat).map _) animal.vision) = _
  rw [arcs_eq ha.defined, List.zipWith_map_left, List.length_map]
  simp only [hlen]
  unfold animalShapes cellArc
  rw [hheading]
  rfl

/-- If the spans of its cells cannot be made, nothing of the eye of an animal is drawn. -/
theorem ofAnimal_of_denied (size : Float) (hfov : config.get "eye_fov_angle" = .ok (.real fov))
    (hcells : config.get "eye_cells" = .ok (.whole cells)) (hpos : 0 < cells) (hlt : cells < 2 ^ 53) {fault : Fault}
    (hd : Memory.grant (Request.spans cells.toNat .whole) = .error fault) (ha : Aware animal) :
    ofAnimal config (.real size) animal =
      ⟨[.triangle animal.x animal.y (.real size) animal.rotation .animal], some fault⟩ := by
  obtain ⟨r, hr⟩ := ha.rotation
  unfold ofAnimal
  rw [eye_eq hfov hcells hr, eyeSpans_of_denied hpos hlt hd]
  rfl

private theorem ofWorld_eq {world : World} (hsize : config.get "food_size" = .ok (.real size)) :
    ofWorld config world =
      ⟨Primitive.clear ::
          (world.foods.map (foodCircle size) ++ (Picture.each world.animals (ofAnimal config (.real size))).calls),
        (Picture.each world.animals (ofAnimal config (.real size))).fault⟩ := by
  unfold ofWorld
  rw [hsize]
  show (Picture.emit [Primitive.clear]).andThen ((Picture.each world.foods _).andThen _) = _
  rw [each_ofFood]
  rfl

end Eye

end Scene

namespace Session

open Scene

variable {E : Engine}

/-- The session that a frame shows: after its step, or as it is if it is paused. -/
def shown (s : Session E) : Session E := if s.active then s.step.2 else s

/-- Whether a frame gets past its step and shows a world that can be drawn with floats: with so much food size, such a
field of view and so many cells, which are less than there are integers with a float of their own. -/
structure Shows (s : Session E) (world : World) (size fov : Float) (cells : Int) : Prop where
  step_eq : s.active = true → ∃ summary?, s.step.1 = .ok summary?
  world_eq : s.shown.world = .ok world
  size_eq : s.shown.config.get? "food_size" = some (.real size)
  fov_eq : s.shown.config.get? "eye_fov_angle" = some (.real fov)
  cells_eq : s.shown.config.get? "eye_cells" = some (.whole cells)
  cells_lt : cells < 2 ^ 53
  aware : ∀ animal ∈ world.animals, Aware animal

section Frame

variable [Memory] {s : Session E} {world : World} {size fov : Float} {cells : Int}

private theorem Shows.ofAnimal_eq (h : s.Shows world size fov cells) (hm : Spannable cells) {animal : Animal}
    (ha : Aware animal) : ofAnimal s.shown.config (.real size) animal =
      ⟨animalShapes size fov cells animal,
        if cells ≤ animal.vision.length then none else some .missingReading⟩ :=
  Scene.ofAnimal_eq (Config.get_of_get? h.fov_eq) (Config.get_of_get? h.cells_eq) h.cells_lt hm ha

private theorem Shows.redraw (h : s.Shows world size fov cells) :
    s.redraw.session = s.shown ∧ s.redraw.scene = .ok (world, ofWorld s.shown.config world) := by
  have hscene : s.shown.scene = .ok (world, ofWorld s.shown.config world) := by
    unfold scene
    rw [h.world_eq]
    rfl
  revert hscene
  unfold Session.redraw shown
  cases ha : s.active with
  | false => exact fun hscene => ⟨rfl, hscene⟩
  | true =>
    obtain ⟨summary?, hstep⟩ := h.step_eq ha
    rcases hs : s.step with ⟨result, t⟩
    rw [hs] at hstep
    obtain rfl : result = .ok summary? := hstep
    exact fun hscene => ⟨rfl, hscene⟩

private theorem ofWorld_of_forall (h : s.Shows world size fov cells) (hroom : Room cells world.animals)
    (hall : ∀ animal ∈ world.animals, cells ≤ animal.vision.length) :
    ofWorld s.shown.config world = ⟨shapes size fov cells world.foods world.animals, none⟩ := by
  have hdrawn : ∀ animal ∈ world.animals,
      ofAnimal s.shown.config (.real size) animal = .emit (animalShapes size fov cells animal) := by
    intro animal ha
    have hm := hroom.resolve_left (List.ne_nil_of_mem ha)
    rw [h.ofAnimal_eq hm (h.aware animal ha), if_pos (hall animal ha)]
    rfl
  rw [ofWorld_eq (Config.get_of_get? h.size_eq), Picture.each_eq_emit hdrawn]
  rfl

private theorem ofWorld_of_lacking (h : s.Shows world size fov cells)
    (hm : Spannable cells) {before after : List Animal} {animal : Animal}
    (hw : world.animals = before ++ animal :: after) (hb : ∀ other ∈ before, cells ≤ other.vision.length)
    (ha : animal.vision.length < cells) :
    ofWorld s.shown.config world = ⟨shapes size fov cells world.foods (before ++ [animal]), some .missingReading⟩ := by
  have hmem : ∀ other ∈ before, other ∈ world.animals := by
    intro other ho
    rw [hw]
    exact List.mem_append_left _ ho
  have hdrawn : ∀ other ∈ before,
      ofAnimal s.shown.config (.real size) other = .emit (animalShapes size fov cells other) := by
    intro other ho
    rw [h.ofAnimal_eq hm (h.aware other (hmem other ho)), if_pos (hb other ho)]
    rfl
  have hcut : ofAnimal s.shown.config (.real size) animal =
      ⟨animalShapes size fov cells animal, some .missingReading⟩ := by
    have hin : animal ∈ world.animals := by simp [hw]
    rw [h.ofAnimal_eq hm (h.aware animal hin), if_neg (by omega)]
  have heach := Picture.each_eq_of_fault after hdrawn (show (ofAnimal _ _ animal).fault = _ by rw [hcut])
  rw [ofWorld_eq (Config.get_of_get? h.size_eq), hw, heach, hcut]
  simp only [shapes, List.flatMap_append, List.flatMap_singleton]

private theorem ofWorld_of_denied (h : s.Shows world size fov cells) (hpos : 0 < cells) {fault : Fault}
    (hd : Memory.grant (Request.spans cells.toNat .whole) = .error fault) {animal : Animal} {after : List Animal}
    (hw : world.animals = animal :: after) :
    ofWorld s.shown.config world =
      ⟨.clear :: (world.foods.map (foodCircle size) ++
        [.triangle animal.x animal.y (.real size) animal.rotation .animal]), some fault⟩ := by
  have hin : animal ∈ world.animals := by simp [hw]
  have hcut := ofAnimal_of_denied size (Config.get_of_get? h.fov_eq) (Config.get_of_get? h.cells_eq)
    hpos h.cells_lt hd (h.aware animal hin)
  have heach : Picture.each (animal :: after) (ofAnimal s.shown.config (.real size)) =
      ofAnimal s.shown.config (.real size) animal := by
    show (ofAnimal s.shown.config (.real size) animal).andThen _ = _
    rw [hcut]
    rfl
  rw [ofWorld_eq (Config.get_of_get? h.size_eq), hw, heach, hcut]

/-- The scene of a world that is shown is one of the three. -/
private theorem Shows.depicts (h : s.Shows world size fov cells) :
    Depicts size fov cells world (ofWorld s.shown.config world) := by
  by_cases hroom : Room cells world.animals
  · cases hf : world.animals.find? fun animal => animal.vision.length < cells with
    | none =>
      have hall : ∀ animal ∈ world.animals, cells ≤ animal.vision.length := by simpa using hf
      rw [ofWorld_of_forall h hroom hall]
      exact .complete hroom hall
    | some animal =>
      obtain ⟨ha, before, after, hw, hb⟩ := List.find?_eq_some_iff_append.mp hf
      have ha' : animal.vision.length < cells := by simpa using ha
      have hb' : ∀ other ∈ before, cells ≤ other.vision.length := by simpa using hb
      have hm := hroom.resolve_left (by simp [hw])
      rw [ofWorld_of_lacking h hm hw hb' ha']
      exact .cut hm hw hb' ha'
  · obtain ⟨hne, hm⟩ := not_or.mp hroom
    obtain ⟨animal, after, hw⟩ := List.exists_cons_of_ne_nil hne
    obtain ⟨hpos, element, hd⟩ := exists_grant_eq_error hm
    rw [ofWorld_of_denied h hpos hd hw]
    exact .noMemory hm hd hw

/-- A frame prints the summary that its step gives, if there is one.  If it gets past its step and shows a world, it
clears the canvas and draws all shapes of the world in order, and it fails if and only if an animal has less readings
than cells; the last shape is then the arc of the last reading of the first such animal.  It takes memory for the spans
of an eye. -/
theorem redraw_shows (s : Session E) :
    s.redraw.printed = (if s.active then stepLines s.step.1 else []) ∧
      ∀ {world : World} {size fov : Float} {cells : Int}, s.Shows world size fov cells →
        s.redraw.session = s.shown ∧
        ∃ picture, s.redraw.scene = .ok (world, picture) ∧ Depicts size fov cells world picture ∧
          (Room cells world.animals → picture.fault =
            if ∃ animal ∈ world.animals, animal.vision.length < cells then some .missingReading else none) := by
  refine ⟨printed_redraw s, fun h => ?_⟩
  obtain ⟨hsession, hscene⟩ := h.redraw
  exact ⟨hsession, _, hscene, h.depicts, h.depicts.fault_eq⟩

end Frame

/-- A script that shows a world in which eyes have the given number of cells, and ends a generation with the first
step. -/
def staged (world : World) (cells : Int) : Engine.Script where
  defaults := Config.ofList [("food_size", .real 0.01), ("eye_fov_angle", .real 1.5), ("eye_cells", .whole cells)]
  world := world
  builds := []
  steps := [.ok (some "generation 1")]
  trainings := []

/-- The session that the script of a world starts with. -/
def onStage (world : World) (cells : Int) : Session (Engine.scripted (staged world cells)) :=
  ⟨[], ⟨⟨(staged world cells).defaults, (staged world cells).steps, []⟩, 0, 0⟩, 1, true⟩

private theorem shows_onStage (world : World) (cells : Int) (hlt : cells < 2 ^ 53)
    (haware : ∀ animal ∈ world.animals, Aware animal) : (onStage world cells).Shows world 0.01 1.5 cells where
  step_eq _ := ⟨_, rfl⟩
  world_eq := rfl
  size_eq := rfl
  fov_eq := rfl
  cells_eq := rfl
  cells_lt := hlt
  aware := haware

/-- Food, an animal with a reading too many, one that lacks two of three, and one behind it. -/
def flock : World where
  animals := [⟨.real 0.25, .real 0.5, .real 0.0, [.real 0.5, .real 2.0, .real 0.0, .real 1.0]⟩,
    ⟨.real 0.75, .real 0.5, .real 1.0, [.real (-1.0)]⟩, ⟨.real 0.5, .real 0.5, .real 0.0, []⟩]
  foods := [⟨.real 0.1, .real 0.2⟩]

private theorem aware_of_kind {animals : List Animal}
    (h : ∀ animal ∈ animals, animal.rotation.kind = .real ∧ ∀ energy ∈ animal.vision, energy.value ≠ .undefined) :
    ∀ animal ∈ animals, Aware animal := by
  intro animal ha
  obtain ⟨hkind, hdefined⟩ := h animal ha
  refine ⟨?_, hdefined⟩
  cases hr : animal.rotation with
  | real r => exact ⟨r, rfl⟩
  | whole n => simp [hr, Number.kind] at hkind

/-- The frame ends with the one arc of the second animal, and the summary is printed. -/
theorem redraw_shows_flock :
    let s := onStage flock 3
    Session.start (Engine.scripted (staged flock 3)) (staged flock 3).defaults true = .ok s ∧
      s.Shows flock 0.01 1.5 3 ∧ Room 3 flock.animals ∧ s.redraw.printed = [some "generation 1"] ∧
      ∃ picture, s.redraw.scene = .ok (flock, picture) ∧ Depicts 0.01 1.5 3 flock picture ∧
        picture.fault = some .missingReading := by
  intro s
  have hshows := shows_onStage flock 3 (by decide) (aware_of_kind (by decide +kernel))
  have hroom : Room 3 flock.animals := .inr (by decide +kernel)
  obtain ⟨hprinted, h⟩ := redraw_shows s
  obtain ⟨-, picture, hscene, hdepicts, hfault⟩ := h hshows
  refine ⟨rfl, hshows, hroom, hprinted, picture, hscene, hdepicts, ?_⟩
  rw [hfault hroom]
  decide +kernel

/-- An animal that senses something with one cell. -/
def lone : World := ⟨[⟨.real 0.5, .real 0.5, .real 0.0, [.real 0.5]⟩], []⟩

/-- An eye can have more cells than there is memory for: then the one reading is not drawn either, and it is not the
missing reading that stops the frame. -/
theorem exists_redraw_noMemory :
    let s := onStage lone 9007199254740991
    Session.start (Engine.scripted (staged lone 9007199254740991)) (staged lone 9007199254740991).defaults true =
        .ok s ∧
      s.Shows lone 0.01 1.5 9007199254740991 ∧
      s.redraw.scene = .ok (lone, ⟨[.clear, .triangle (.real 0.5) (.real 0.5) (.real 0.01) (.real 0.0) .animal],
        some (.noMemory 9007199254740991 (some .whole))⟩) := by
  intro s
  have hshows := shows_onStage lone 9007199254740991 (by decide) (aware_of_kind (by decide +kernel))
  refine ⟨rfl, hshows, ?_⟩
  have hdenied : Memory.grant (Request.spans (9007199254740991 : Int).toNat .whole) =
    .error (.noMemory 9007199254740991 (some .whole)) := rfl
  rw [hshows.redraw.2, ofWorld_of_denied hshows (by decide) hdenied rfl]
  rfl

end Session

end Aviary
