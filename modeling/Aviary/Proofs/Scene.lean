import Aviary.Proofs.Arithmetic
import Aviary.Scene

/-!
# Scenes drawn to the end

When the scene of a world is drawn without a fault.  A cell has a colour for every energy but an undefined one
(`exists_eyeColor`), and an eye with a positive integer of cells has its spans exactly if the field of view has a
float and the cells can be counted (`eyeSpans_eq_ok_iff`).  Its arcs are then drawn to the end exactly if no cell
lacks a reading (`fault_arcs`).
-/

namespace Aviary.Scene

open Fault Number

/-! ### The colour of a cell -/

/-- A clamped energy lies between zero and one. -/
private theorem exists_clampEnergy {energy : Number} (h : energy.value ≠ .undefined) :
    ∃ x q, clampEnergy energy = .ok x ∧ Binary64.value x = .exact q ∧ 0 ≤ q ∧ q ≤ 1 := by
  unfold clampEnergy
  by_cases h₀ : energy.lt (.whole 0) = true
  · rw [if_pos h₀]
    exact ⟨0.0, 0, rfl, by decide +kernel, by decide, by decide⟩
  by_cases h₁ : (Number.whole 1).lt energy = true
  · rw [if_neg h₀, if_pos h₁]
    exact ⟨1.0, 1, rfl, by decide +kernel, by decide, by decide⟩
  rw [if_neg h₀, if_neg h₁]
  cases energy with
  | whole n =>
    have hn₀ : ¬ n < 0 := by simpa [Number.lt, Number.value, Value.lt] using h₀
    have hn₁ : ¬ 1 < n := by
      simp only [Number.lt, Number.value, Value.lt, decide_eq_true_eq] at h₁
      exact_mod_cast h₁
    have hf : (Number.whole n).HasFloat := hasFloat_of_natAbs_le (by omega)
    obtain rfl | rfl : n = 0 ∨ n = 1 := by omega
    · exact ⟨_, 0, toFloat_whole hf, by decide +kernel, by decide, by decide⟩
    · exact ⟨_, 1, toFloat_whole hf, by decide +kernel, by decide, by decide⟩
  | real x =>
    cases hx : Binary64.value x with
    | undefined => exact absurd hx h
    | belowAll => simp [Number.lt, Number.value, Value.lt, hx] at h₀
    | aboveAll => simp [Number.lt, Number.value, Value.lt, hx] at h₁
    | exact q =>
      simp only [Number.lt, Number.value, Value.lt, hx, decide_eq_true_eq, not_lt] at h₀ h₁
      exact ⟨x, q, rfl, hx, by exact_mod_cast h₀, by exact_mod_cast h₁⟩

/-- A cell has a colour for every energy but an undefined one. -/
theorem exists_eyeColor {energy : Number} (h : energy.value ≠ .undefined) :
    ∃ color, eyeColor energy = .ok color := by
  obtain ⟨x, q, hx, hq, h₀, h₁⟩ := exists_clampEnergy h
  obtain ⟨p, hp⟩ := Binary64.value_eq_exact_iff.mpr (Binary64.isFinite_mul_255 hq h₀ h₁)
  have hround : Number.round (.real (x * 255.0)) = .ok (roundEven p) := by
    simp only [Number.round, Number.toInt, hp]
  refine ⟨.eye (roundEven p).toNat, ?_⟩
  unfold eyeColor
  rw [bind_eq_ok_iff]
  exact ⟨x, hx, bind_eq_ok_iff.mpr ⟨_, hround, rfl⟩⟩

/-! ### The spans of the cells -/

section Spans

variable [Memory]

theorem eyeSpans_eq {r : Float} {fov : Number} {k : Int} (hk : 1 ≤ k) :
    eyeSpans (.real r) fov (.whole k) = (do
      let width ← fov.div (.whole k)
      let start ← (Number.real r).sub (← fov.half)
      let n ← (Number.whole k).count
      (List.range n).mapM fun (i : Nat) => do
        let first ← start.add (← (Number.whole i).mul width)
        return (first, ← first.add width)) := by
  have hpos : ¬ (Number.whole k).le (.whole 0) = true := by
    rw [whole_le_iff]
    omega
  exact if_neg hpos

/-- The span with number `i` of spans of one width that follow one another. -/
def spanFrom (start width : Float) (i : Nat) : Number × Number :=
  let first := start + Binary64.ofInt i * width
  (.real first, .real (first + width))

/-- The spans of an eye follow one another, as many as cells are counted. -/
theorem eyeSpans_eq_map {r x w : Float} {fov : Number} {k : Int} {n : Nat} (hk : 1 ≤ k) (hx : fov.toFloat = .ok x)
    (hw : fov.div (.whole k) = .ok (.real w)) (hn : (Number.whole k).count = .ok n) :
    eyeSpans (.real r) fov (.whole k) = .ok ((List.range n).map (spanFrom (r - x / 2.0) w)) := by
  obtain ⟨-, hsmall⟩ := count_whole hk hn
  have hhalf : fov.half = .ok (.real (x / 2.0)) := by
    unfold Number.half
    rw [hx]
    rfl
  have hcell : ∀ i ∈ List.range n, (do
      let first ← (Number.real (r - x / 2.0)).add (← (Number.whole (i : Nat)).mul (.real w))
      return (first, ← first.add (.real w))) = Except.ok (spanFrom (r - x / 2.0) w i) := by
    intro i hi
    have hi' : i < n := List.mem_range.mp hi
    have hfloat : (Number.whole (i : Int)).HasFloat := hasFloat_of_natAbs_le (by omega)
    rw [mul_real_of_toFloat (toFloat_whole hfloat)]
    rfl
  rw [eyeSpans_eq hk, bind_eq_ok_iff]
  refine ⟨.real w, hw, bind_eq_ok_iff.mpr ⟨.real (x / 2.0), hhalf, ?_⟩⟩
  exact bind_eq_ok_iff.mpr ⟨.real (r - x / 2.0), rfl, bind_eq_ok_iff.mpr ⟨n, hn, mapM_eq_map hcell⟩⟩

private theorem exists_eyeSpans {r : Float} {fov : Number} {k : Int} {n : Nat} (hk : 1 ≤ k) (hfov : fov.HasFloat)
    (hn : (Number.whole k).count = .ok n) :
    ∃ spans, eyeSpans (.real r) fov (.whole k) = .ok spans ∧ spans.length = n := by
  obtain ⟨w, hw⟩ := exists_div hfov hk (count_whole hk hn).1
  obtain ⟨x, hx⟩ := hasFloat_iff.mp hfov
  exact ⟨_, eyeSpans_eq_map hk hx hw hn, by rw [List.length_map, List.length_range]⟩

/-- An animal that faces a real direction has the spans of its cells exactly if its field of view has a float and the
cells can be counted. -/
theorem eyeSpans_eq_ok_iff {r : Float} {fov : Number} {k : Int} {n : Nat} (hk : 1 ≤ k) :
    (∃ spans, eyeSpans (.real r) fov (.whole k) = .ok spans ∧ spans.length = n) ↔
      fov.HasFloat ∧ (Number.whole k).count = .ok n := by
  constructor
  · rintro ⟨spans, h, rfl⟩
    have h' := h
    rw [eyeSpans_eq hk, bind_eq_ok_iff] at h'
    obtain ⟨width, -, h'⟩ := h'
    obtain ⟨half, hhalf, h'⟩ := bind_eq_ok_iff.mp h'
    obtain ⟨start, -, h'⟩ := bind_eq_ok_iff.mp h'
    obtain ⟨n, hn, -⟩ := bind_eq_ok_iff.mp h'
    have hfov := exists_half_iff.mp ⟨half, hhalf⟩
    -- There is only one list of spans, and it is known to have `n` of them.
    obtain ⟨spans', hspans', rfl⟩ := exists_eyeSpans (r := r) hk hfov hn
    rw [h] at hspans'
    obtain rfl := Except.ok.inj hspans'
    exact ⟨hfov, hn⟩
  · rintro ⟨hfov, hn⟩
    exact exists_eyeSpans hk hfov hn

end Spans

/-! ### Animals, food and worlds -/

/-- The arcs of an eye are all drawn if and only if there is a reading for every cell that has a span. -/
theorem fault_arcs {x y radius : Number} {spans : List (Number × Number)} {readings : List Number}
    (hdef : ∀ energy ∈ readings, energy.value ≠ .undefined) :
    (arcs x y radius spans readings).fault = none ↔ spans.length ≤ readings.length := by
  induction spans generalizing readings with
  | nil => exact iff_of_true rfl (Nat.zero_le _)
  | cons span spans ih =>
    cases readings with
    | nil => exact iff_of_false (fun h => by cases h) (Nat.not_succ_le_zero _)
    | cons energy readings =>
      obtain ⟨henergy, hreadings⟩ := List.forall_mem_cons.mp hdef
      obtain ⟨color, hcolor⟩ := exists_eyeColor henergy
      show (Picture.ofExcept (eyeColor energy) _).fault = none ↔ _
      rw [hcolor, List.length_cons, List.length_cons, Nat.succ_le_succ_iff]
      exact ih hreadings

private theorem fault_ofFood {size : Number} {food : Food} : (ofFood size food).fault = none ↔ size.HasFloat := by
  unfold ofFood
  rw [Picture.fault_ofExcept, ← exists_half_iff]
  exact exists_congr fun radius => and_iff_left rfl

/-- Whether an animal faces a real direction and senses something with each of so many cells. -/
structure Senses (animal : Animal) (cells : Int) : Prop where
  rotation : ∃ r, animal.rotation = .real r
  readings : animal.vision.length = cells.toNat
  defined : ∀ energy ∈ animal.vision, energy.value ≠ .undefined

variable [Memory]

/-- An animal that senses something with all its cells is drawn to the end exactly if its size and its field of view
have floats and the cells can be counted, without counting too many. -/
theorem fault_ofAnimal {config : Config} {size fov : Number} {animal : Animal} {k : Int} (hk : 1 ≤ k)
    (hcells : config.get "eye_cells" = .ok (.whole k)) (hfov : config.get "eye_fov_angle" = .ok fov)
    (ha : Senses animal k) :
    (ofAnimal config size animal).fault = none ↔
      size.HasFloat ∧ fov.HasFloat ∧ ∃ n : Nat, (Number.whole k).count = .ok n ∧ n ≤ k := by
  obtain ⟨r, hr⟩ := ha.rotation
  have hread := ha.readings
  have heye : ∀ e, eye config size animal = .ok e ↔
      size.mul eyeDistance = .ok e.1 ∧ eyeSpans (.real r) fov (.whole k) = .ok e.2 := by
    intro e
    unfold eye
    rw [hcells, hfov, hr, bind_eq_ok_iff]
    constructor
    · rintro ⟨radius, hradius, h⟩
      obtain ⟨spans, hspans, h⟩ := bind_eq_ok_iff.mp (show (eyeSpans (.real r) fov (.whole k) >>= _) = _ from h)
      obtain rfl := Except.ok.inj h
      exact ⟨hradius, hspans⟩
    · rintro ⟨hradius, hspans⟩
      exact ⟨e.1, hradius, bind_eq_ok_iff.mpr ⟨fov, rfl, bind_eq_ok_iff.mpr ⟨.whole k, rfl,
        bind_eq_ok_iff.mpr ⟨e.2, hspans, rfl⟩⟩⟩⟩
  unfold ofAnimal
  rw [Picture.fault_emit_andThen, Picture.fault_ofExcept]
  constructor
  · rintro ⟨e, he, harcs⟩
    obtain ⟨hradius, hspans⟩ := (heye e).mp he
    obtain ⟨hf, hn⟩ := (eyeSpans_eq_ok_iff hk).mp ⟨e.2, hspans, rfl⟩
    have hlen := (fault_arcs ha.defined).mp harcs
    exact ⟨hasFloat_of_mul_real hradius, hf, e.2.length, hn, by omega⟩
  · rintro ⟨hsize, hf, n, hn, hle⟩
    obtain ⟨spans, hspans, hlen⟩ := (eyeSpans_eq_ok_iff (r := r) hk).mpr ⟨hf, hn⟩
    obtain ⟨radius, hradius⟩ := exists_mul_real hsize 2.5
    refine ⟨(.real radius, spans), (heye _).mpr ⟨hradius, hspans⟩, (fault_arcs ha.defined).mpr ?_⟩
    show spans.length ≤ animal.vision.length
    omega

theorem fault_ofWorld {config : Config} {world : World} {size : Number} (h : config.get "food_size" = .ok size) :
    (ofWorld config world).fault = none ↔
      (∀ food ∈ world.foods, size.HasFloat) ∧ ∀ animal ∈ world.animals, (ofAnimal config size animal).fault = none := by
  unfold ofWorld
  rw [Picture.fault_emit_andThen, h]
  show ((Picture.each world.foods (ofFood size)).andThen (Picture.each world.animals (ofAnimal config size))).fault =
    none ↔ _
  rw [Picture.fault_andThen, Picture.fault_each, Picture.fault_each]
  exact and_congr_left' (forall₂_congr fun food _ => fault_ofFood)

end Aviary.Scene
