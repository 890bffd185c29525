import Aviary.Proofs.Sample
import Aviary.Proofs.Scene

/-!
# Frames that can be drawn

When a frame of the sample engine is drawn to the end.  Its step never fails, so it comes down to the configuration:
the world has to exist and its scene has to be drawn (`Drawable`).  A configuration that the engine accepted can still
fail at both, as a float may stand where things are counted (`exists_redraw_fault`), or for want of memory.
-/

namespace Aviary.Engine.Sample

open Config Fault Number

/-- Whether the frames of a configuration can be drawn.  Animals and food are counted by integers, and there is memory
for lists of them.  If there is one of them, food has a size with a float, and if there is an animal, its eye has an
integer of cells that can be counted, without counting too many, and a field of view with a float. -/
def Drawable [Memory] (c : Config) : Prop :=
  ∃ animals foods : Int, c.get? "world_animals" = some (.whole animals) ∧ c.get? "world_foods" = some (.whole foods) ∧
    Memory.holds (.list foods.toNat 2) = true ∧
    (0 < animals ∨ 0 < foods → ∃ size, c.get? "food_size" = some size ∧ size.HasFloat) ∧
    (0 < animals → ∃ (cells : Int) (n : Nat) (fov : Number), c.get? "eye_cells" = some (.whole cells) ∧
      Memory.holds (.list animals.toNat (cells.toNat + 3)) = true ∧ (Number.whole cells).count = .ok n ∧ n ≤ cells ∧
      c.get? "eye_fov_angle" = some fov ∧ fov.HasFloat)

/-! ### The world of a configuration -/

private theorem quantity_eq_ok_iff {a : Number} {n : Nat} :
    quantity a = .ok n ↔ ∃ k : Int, a = .whole k ∧ k.toNat = n := by
  cases a <;> simp [quantity]

private theorem length_fractions (n : Nat) (d : Int) : (fractions n d).length = n := by
  rw [fractions, List.length_map, List.length_range]

/-- Every reading of a cell is a fraction of one, so it is defined. -/
private theorem value_ne_undefined_of_mem_fractions {k : Nat} {energy : Number} (h : energy ∈ fractions k k) :
    energy.value ≠ .undefined := by
  obtain ⟨i, hi, rfl⟩ := List.mem_map.mp h
  have hik : i < k := List.mem_range.mp hi
  have hl := Binary64.le_limit 970
  have hlt : ((i : Int) + 1).natAbs < Binary64.limit 970 * (k : Int).natAbs := by
    rw [Int.natAbs_natCast]
    calc ((i : Int) + 1).natAbs < 2 * k := by omega
      _ ≤ Binary64.limit 970 * k := Nat.mul_le_mul_right k (by omega)
  obtain ⟨q, hq⟩ := Binary64.value_eq_exact_iff.mpr (Binary64.isFinite_quotient hlt)
  intro hu
  rw [show (Number.real (Binary64.quotient ((i : Int) + 1) k)).value = .exact q from hq] at hu
  cases hu

private theorem le_of_not_lt_one {k : Int} (h : (Number.whole k).lt (.whole 1) = false) : 1 ≤ k := by
  simp only [Number.lt, Number.value, Value.lt, decide_eq_false_iff_not, not_lt] at h
  exact_mod_cast h

variable [Memory]

/-- A world has no animals, or it has some, with memory for them, and all of them have a reading for every cell. -/
private theorem animals_eq_ok {n : Nat} {cells : Number} {found : List Animal} (h : animals n cells = .ok found) :
    (n = 0 ∧ found = []) ∨
      n ≠ 0 ∧ found ≠ [] ∧ ∃ k : Int, cells = .whole k ∧ Memory.holds (.list n (k.toNat + 3)) = true ∧
        ∀ animal ∈ found, Scene.Senses animal k := by
  cases n with
  | zero => exact .inl ⟨rfl, (Except.ok.inj h).symm⟩
  | succ n =>
    right
    obtain ⟨k', hk', h⟩ := bind_eq_ok_iff.mp h
    obtain ⟨k, rfl, rfl⟩ := quantity_eq_ok_iff.mp hk'
    obtain ⟨_, hgrant, h⟩ := bind_eq_ok_iff.mp h
    obtain rfl := Except.ok.inj h
    refine ⟨by omega, ?_, k, rfl, Memory.grant_singleton_iff.mp hgrant, ?_⟩
    · rw [Ne, List.mapIdx_eq_nil_iff, ← List.length_eq_zero_iff, length_fractions]
      omega
    · intro animal ha
      obtain ⟨i, hi, rfl⟩ := List.mem_mapIdx.mp ha
      exact ⟨⟨_, rfl⟩, length_fractions _ _, fun energy => value_ne_undefined_of_mem_fractions⟩

private theorem exists_animals {n : Nat} {cells : Number}
    (h : n ≠ 0 → ∃ k : Int, cells = .whole k ∧ Memory.holds (.list n (k.toNat + 3)) = true) :
    ∃ found, animals n cells = .ok found := by
  cases n with
  | zero => exact ⟨[], rfl⟩
  | succ n =>
    obtain ⟨k, rfl, hm⟩ := h (by omega)
    exact ⟨_, bind_eq_ok_iff.mpr ⟨k.toNat, rfl, bind_eq_ok_iff.mpr ⟨(), Memory.grant_singleton_iff.mpr hm, rfl⟩⟩⟩

variable {s : State} {cells animals foods size fov : Number}

/-- The parts of a world, in the order in which they are made. -/
private theorem world_eq_ok_iff (h : Measures s.config cells animals foods size) {w : World} :
    world s = .ok w ↔ ∃ n m, quantity animals = .ok n ∧ Sample.animals n cells = .ok w.animals ∧
      quantity foods = .ok m ∧ Memory.holds (.list m 2) = true ∧
      w.foods = (fractions m (m + 1)).map fun x => { x, y := .real 0.25 } := by
  unfold world
  rw [get_of_get? h.animals, get_of_get? h.cells, get_of_get? h.foods]
  constructor
  · intro hw
    obtain ⟨n, hn, hw⟩ := bind_eq_ok_iff.mp (show (quantity animals >>= _) = _ from hw)
    obtain ⟨found, hfound, hw⟩ := bind_eq_ok_iff.mp hw
    obtain ⟨m, hm, hw⟩ := bind_eq_ok_iff.mp (show (quantity foods >>= _) = _ from hw)
    obtain ⟨_, hgrant, hw⟩ := bind_eq_ok_iff.mp hw
    obtain rfl := Except.ok.inj hw
    exact ⟨n, m, hn, hfound, hm, Memory.grant_singleton_iff.mp hgrant, rfl⟩
  · rintro ⟨n, m, hn, hfound, hm, hgrant, hfoods⟩
    show (quantity animals >>= _) = _
    refine bind_eq_ok_iff.mpr ⟨n, hn, bind_eq_ok_iff.mpr ⟨w.animals, hfound, ?_⟩⟩
    show (quantity foods >>= _) = _
    refine bind_eq_ok_iff.mpr ⟨m, hm, bind_eq_ok_iff.mpr ⟨(), Memory.grant_singleton_iff.mpr hgrant, ?_⟩⟩
    rw [← hfoods]
    rfl

/-! ### The frames of a configuration -/

/-- What an animal of a world asks of the configuration, if it is drawn to the end. -/
private theorem drawable_of_animal (h : Measures s.config cells animals foods size)
    (hfov : s.config.get? "eye_fov_angle" = some fov) (hk : cells.lt (.whole 1) = false) {n : Nat}
    {found : List Animal} (hfound : Sample.animals n cells = .ok found) (hn : n ≠ 0) :
    (∀ animal ∈ found, (Scene.ofAnimal s.config size animal).fault = none) ↔
      size.HasFloat ∧ fov.HasFloat ∧ ∃ (k : Int) (j : Nat), cells = .whole k ∧
        Memory.holds (.list n (k.toNat + 3)) = true ∧ (Number.whole k).count = .ok j ∧ j ≤ k := by
  obtain ⟨hz, -⟩ | ⟨-, hne, k, rfl, hm, hs⟩ := animals_eq_ok hfound
  · exact absurd hz hn
  have hdrawn : ∀ animal ∈ found, (Scene.ofAnimal s.config size animal).fault = none ↔
      size.HasFloat ∧ fov.HasFloat ∧ ∃ j : Nat, (Number.whole k).count = .ok j ∧ j ≤ k := fun animal ha =>
    Scene.fault_ofAnimal (le_of_not_lt_one hk) (get_of_get? h.cells) (get_of_get? hfov) (hs animal ha)
  constructor
  · intro hall
    obtain ⟨animal, ha⟩ := List.exists_mem_of_ne_nil found hne
    obtain ⟨hsize, hf, j, hj⟩ := (hdrawn animal ha).mp (hall animal ha)
    exact ⟨hsize, hf, k, j, rfl, hm, hj⟩
  · rintro ⟨hsize, hf, k', j, hk', -, hj⟩ animal ha
    obtain rfl := Number.whole.inj hk'
    exact (hdrawn animal ha).mpr ⟨hsize, hf, j, hj⟩

/-- `Drawable` in terms of the numbers of a configuration. -/
private theorem drawable_iff (h : Measures s.config cells animals foods size)
    (hfov : s.config.get? "eye_fov_angle" = some fov) :
    Drawable s.config ↔ ∃ n m : Int, animals = .whole n ∧ foods = .whole m ∧
      Memory.holds (.list m.toNat 2) = true ∧ (0 < n ∨ 0 < m → size.HasFloat) ∧
      (0 < n → fov.HasFloat ∧ ∃ (k : Int) (j : Nat), cells = .whole k ∧
        Memory.holds (.list n.toNat (k.toNat + 3)) = true ∧ (Number.whole k).count = .ok j ∧ j ≤ k) := by
  unfold Drawable
  rw [h.animals, h.foods, h.size, h.cells, hfov]
  simp only [Option.some.injEq, exists_eq_left']
  refine exists₂_congr fun n m => and_congr_right fun _ => and_congr_right fun _ => and_congr_right fun _ =>
    and_congr_right fun _ => ?_
  refine imp_congr_right fun _ => ⟨?_, ?_⟩
  · rintro ⟨k, j, fov, hk, hm, hj, hle, rfl, hf⟩
    exact ⟨hf, k, j, hk, hm, hj, hle⟩
  · rintro ⟨hf, k, j, hk, hm, hj, hle⟩
    exact ⟨k, j, fov, hk, hm, hj, hle, rfl, hf⟩

/-- A simulation with at least one eye cell has a world whose scene is drawn to the end exactly if its configuration
can be drawn. -/
private theorem exists_scene_iff (h : Measures s.config cells animals foods size)
    (hfov : s.config.get? "eye_fov_angle" = some fov) (hk : cells.lt (.whole 1) = false) :
    (∃ w, world s = .ok w ∧ (Scene.ofWorld s.config w).fault = none) ↔ Drawable s.config := by
  rw [drawable_iff h hfov]
  constructor
  · rintro ⟨w, hw, hp⟩
    obtain ⟨_, _, hn, hfound, hm, hmem, hfoods⟩ := (world_eq_ok_iff h).mp hw
    obtain ⟨n, rfl, rfl⟩ := quantity_eq_ok_iff.mp hn
    obtain ⟨m, rfl, rfl⟩ := quantity_eq_ok_iff.mp hm
    obtain ⟨hfood, hall⟩ := (Scene.fault_ofWorld (get_of_get? h.size)).mp hp
    have hanimal := fun hn : 0 < n => (drawable_of_animal h hfov hk hfound (by omega)).mp hall
    refine ⟨n, m, rfl, rfl, hmem, ?_, fun hn => (hanimal hn).2⟩
    rintro (hn | hm)
    · exact (hanimal hn).1
    · have hlen : w.foods.length = m.toNat := by rw [hfoods, List.length_map, length_fractions]
      obtain ⟨food, hf⟩ := List.exists_mem_of_length_pos (l := w.foods) (by omega)
      exact hfood food hf
  · rintro ⟨n, m, rfl, rfl, hmem, hsize, hcells⟩
    have hwhole : n.toNat ≠ 0 → ∃ k : Int, cells = .whole k ∧ Memory.holds (.list n.toNat (k.toNat + 3)) = true := by
      intro hn
      obtain ⟨-, k, -, hk', hm, -⟩ := hcells (by omega)
      exact ⟨k, hk', hm⟩
    obtain ⟨found, hfound⟩ := exists_animals hwhole
    -- There is this world, and what is in it asks for nothing but what is granted.
    let w : World := ⟨found, (fractions m.toNat (m.toNat + 1)).map fun x => { x, y := .real 0.25 }⟩
    refine ⟨w, (world_eq_ok_iff h).mpr ⟨n.toNat, m.toNat, rfl, hfound, rfl, hmem, rfl⟩, ?_⟩
    refine (Scene.fault_ofWorld (get_of_get? h.size)).mpr ⟨fun food hf => hsize ?_, ?_⟩
    · have hlen : w.foods.length = m.toNat := by rw [List.length_map, length_fractions]
      have hpos := List.length_pos_of_mem hf
      omega
    · by_cases hz : n.toNat = 0
      · obtain ⟨-, rfl⟩ | ⟨hne, -⟩ := animals_eq_ok hfound
        · exact List.forall_mem_nil _
        · exact absurd hz hne
      · exact (drawable_of_animal h hfov hk hfound hz).mpr ⟨hsize (by omega), hcells (by omega)⟩

end Aviary.Engine.Sample

namespace Aviary.Session

open Engine.Sample

/-- The scene of a session is shown to the end if there is a world and its picture has no fault. -/
private theorem fault_scene_iff [Memory] {E : Engine} {s : Session E} {printed : List Line} :
    (⟨s, printed, s.scene⟩ : Frame E).fault = none ↔
      ∃ w, s.world = .ok w ∧ (Scene.ofWorld s.config w).fault = none := by
  unfold Frame.fault scene
  cases s.world <;> simp [bind, Except.bind, pure, Except.pure]

private theorem fault_scene_iff_drawable [Memory] {s : Session Engine.sample} {printed : List Line}
    (h : Accepted s.config) : (⟨s, printed, s.scene⟩ : Frame Engine.sample).fault = none ↔ Drawable s.config := by
  obtain ⟨cells, animals, foods, size, hm⟩ := exists_measures h.names
  obtain ⟨fov, hfov⟩ := exists_get? h.names "eye_fov_angle" (by simp)
  rw [fault_scene_iff]
  exact exists_scene_iff (s := s.simulation.state) hm hfov (h.lt_cells hm)

/-- A frame steps without a fault, so it comes down to the scene. -/
private theorem fault_redraw_iff [Memory] {s : Session Engine.sample} (h : Accepted s.config) :
    s.redraw.fault = none ↔ Drawable s.config := by
  unfold redraw
  cases s.active with
  | false => exact fault_scene_iff_drawable h
  | true =>
    obtain ⟨summary?, t, hstep, hconfig⟩ := exists_step h.names
    rw [if_pos rfl, hstep, ← hconfig]
    rw [← hconfig] at h
    exact fault_scene_iff_drawable h

/-- In a session that starts with the defaults, whatever is typed in and whatever frames pass, the next frame is drawn
to the end if and only if the configuration can be drawn. -/
theorem fault_redraw_after_iff [Memory] (active : Bool) :
    ∃ s₀, Session.start Engine.sample Engine.sample.defaults active = .ok s₀ ∧
      ∀ actions, (s₀.after actions).redraw.fault = none ↔ Drawable (s₀.after actions).config :=
  ⟨_, rfl, fun actions => fault_redraw_iff (accepted_after rfl actions)⟩

/-- No food at all, counted by a float: a reset installs it, and the next frame fails. -/
theorem exists_redraw_fault :
    ∃ s₀, Session.start Engine.sample Engine.sample.defaults true = .ok s₀ ∧
      (s₀.after [.line "r a=0 f:world_foods=0"]).redraw.fault = some .fractionalCount :=
  ⟨_, rfl, by decide +kernel⟩

end Aviary.Session
