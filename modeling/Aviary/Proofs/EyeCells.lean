import Mathlib.Algebra.Order.Archimedean.Basic
import Mathlib.Tactic.FieldSimp
import Mathlib.Tactic.Linarith
import Mathlib.Tactic.Ring
import Aviary.Scene

/-!
# The cells of an eye

Where nothing is rounded, the cells of an eye share its field of view: their spans follow one another without a gap and
without an overlap, and one of them holds every angle of the field (`shares_evenSpans`).  A field that is not positive
has no angles, and neither have its spans.  The main statement is `eyeSpans_shares`.
-/

namespace Aviary.Scene

/-- Whether an angle lies in a span, which ends before its second angle. -/
def Covers (span : Rat × Rat) (angle : Rat) : Prop := span.1 ≤ angle ∧ angle < span.2

/-- Whether spans share a field: each ends where the next one starts, their widths make up that of the field, and an
angle lies in exactly one of them if it lies in the field, and in none otherwise. -/
structure Shares (field : Rat × Rat) (spans : List (Rat × Rat)) : Prop where
  meets : ∀ i (hi : i + 1 < spans.length), spans[i].2 = spans[i + 1].1
  widths : (spans.map fun span => span.2 - span.1).sum = field.2 - field.1
  covers_iff : ∀ angle, Covers field angle ↔ ∃! i, ∃ hi : i < spans.length, Covers spans[i] angle
  none_of_not : ∀ angle, ¬ Covers field angle → ∀ span ∈ spans, ¬ Covers span angle

/-- So many spans of one width that follow one another. -/
def evenSpans (start width : Rat) (n : Nat) : List (Rat × Rat) :=
  (List.range n).map fun (i : Nat) => (start + i * width, start + i * width + width)

variable {start width angle : Rat} {n : Nat}

private theorem length_evenSpans : (evenSpans start width n).length = n := by
  unfold evenSpans
  rw [List.length_map, List.length_range]

private theorem getElem_evenSpans {i : Nat} (hi : i < (evenSpans start width n).length) :
    (evenSpans start width n)[i] = (start + i * width, start + i * width + width) := by
  simp only [evenSpans, List.getElem_map, List.getElem_range]

/-- An angle of one of the spans lies between the start of the first and the end of the last. -/
private theorem covers_of_span {i : Nat} (hi : i < n)
    (h : Covers (start + i * width, start + i * width + width) angle) : Covers (start, start + n * width) angle := by
  obtain ⟨hle, hlt⟩ := h
  dsimp only at hle hlt
  have hwidth : 0 ≤ width := by linarith
  have hleft : 0 ≤ (i : Rat) * width := mul_nonneg (Nat.cast_nonneg i) hwidth
  have hnext : (i : Rat) + 1 ≤ n := by exact_mod_cast hi
  have hright : ((i : Rat) + 1) * width ≤ n * width := mul_le_mul_of_nonneg_right hnext hwidth
  constructor
  · show start ≤ angle
    linarith
  · show angle < start + n * width
    linarith

/-- The one span that an angle lies in is found by dividing its distance from the start by the width. -/
private theorem existsUnique_span (h : Covers (start, start + n * width) angle) :
    ∃! i : Nat, i < n ∧ Covers (start + i * width, start + i * width + width) angle := by
  obtain ⟨hle, hlt⟩ := h
  dsimp only at hle hlt
  have hwidth : 0 < width := by
    by_contra hneg
    have hnonpos : (n : Rat) * width ≤ 0 := mul_nonpos_of_nonneg_of_nonpos (Nat.cast_nonneg n) (not_lt.mp hneg)
    linarith
  obtain ⟨m, ⟨hm, hm'⟩, hunique⟩ := existsUnique_sub_zsmul_mem_Ico hwidth angle start
  dsimp only at hm hm' hunique
  rw [zsmul_eq_mul] at hm hm'
  -- the quotient is a natural number below `n`, as the angle lies between the start and the end
  have hnonneg : 0 ≤ m := by
    by_contra hneg
    have hle : (m : Rat) + 1 ≤ 0 := by exact_mod_cast not_le.mp hneg
    have hmul : ((m : Rat) + 1) * width ≤ 0 := mul_nonpos_of_nonpos_of_nonneg hle hwidth.le
    linarith
  obtain ⟨i, rfl⟩ := Int.eq_ofNat_of_zero_le hnonneg
  rw [Int.cast_natCast] at hm hm'
  have hin : i < n := by
    by_contra hge
    have hcast : (n : Rat) ≤ i := by exact_mod_cast not_lt.mp hge
    have hmul : (n : Rat) * width ≤ i * width := mul_le_mul_of_nonneg_right hcast hwidth.le
    linarith
  refine ⟨i, ⟨hin, ?_, ?_⟩, ?_⟩
  · show start + i * width ≤ angle
    linarith
  · show angle < start + i * width + width
    linarith
  · rintro j ⟨-, hj, hj'⟩
    dsimp only at hj hj'
    have heq : (j : Int) = i := by
      refine hunique j ⟨?_, ?_⟩
      · rw [zsmul_eq_mul, Int.cast_natCast]
        linarith
      · rw [zsmul_eq_mul, Int.cast_natCast]
        linarith
    exact_mod_cast heq

private theorem exists_covers_iff {i : Nat} :
    (∃ hi : i < (evenSpans start width n).length, Covers (evenSpans start width n)[i] angle) ↔
      i < n ∧ Covers (start + i * width, start + i * width + width) angle := by
  constructor
  · rintro ⟨hi, h⟩
    rw [getElem_evenSpans] at h
    rw [length_evenSpans] at hi
    exact ⟨hi, h⟩
  · rintro ⟨hi, h⟩
    have hi' : i < (evenSpans start width n).length := by rwa [length_evenSpans]
    refine ⟨hi', ?_⟩
    rw [getElem_evenSpans]
    exact h

/-- Spans of one width that follow one another share the field from the start of the first to the end of the last. -/
theorem shares_evenSpans (start width : Rat) (n : Nat) :
    Shares (start, start + n * width) (evenSpans start width n) where
  meets i hi := by
    rw [getElem_evenSpans, getElem_evenSpans]
    push_cast
    ring
  widths := by
    have hwidths : (evenSpans start width n).map (fun span => span.2 - span.1) = List.replicate n width := by
      refine List.eq_replicate_iff.mpr ⟨by rw [List.length_map, length_evenSpans], fun x hx => ?_⟩
      obtain ⟨span, hspan, rfl⟩ := List.mem_map.mp hx
      obtain ⟨i, -, rfl⟩ := List.mem_map.mp hspan
      ring
    rw [hwidths, List.sum_replicate, nsmul_eq_mul]
    ring
  covers_iff angle := by
    simp only [exists_covers_iff]
    constructor
    · exact existsUnique_span
    · rintro ⟨i, ⟨hi, h⟩, -⟩
      exact covers_of_span hi h
  none_of_not angle h span hspan hcovers := by
    obtain ⟨i, hi, rfl⟩ := List.mem_map.mp hspan
    exact h (covers_of_span (List.mem_range.mp hi) hcovers)

/-- Over the rationals, the spans of the cells are as wide as the field of view divided by their number. -/
private theorem eyeSpans_eq_evenSpans (rotation fov : Rat) {n : Int} (hn : 1 ≤ n) :
    eyeSpans rotation fov (n : Rat) = .ok (evenSpans (rotation - fov / 2) (fov / n) n.toNat) := by
  have hpos : ¬ Scalar.le (n : Rat) (Scalar.whole 0) = true := by
    show ¬ decide ((n : Rat) ≤ ((0 : Int) : Rat)) = true
    rw [decide_eq_true_eq, Int.cast_le]
    omega
  have hcount : Counts.count (n : Rat) = .ok n.toNat := by
    show Except.ok (n : Rat).ceil.toNat = _
    rw [Rat.ceil_intCast]
  unfold eyeSpans
  rw [if_neg hpos, hcount]
  exact Fault.mapM_eq_map fun i _ => rfl

/-- The cells of an eye share its field of view in equal parts, where nothing is rounded. -/
theorem eyeSpans_shares (rotation fov : Rat) {n : Int} (hn : 1 ≤ n) :
    ∃ spans, eyeSpans rotation fov (n : Rat) = .ok spans ∧ (spans.length : Int) = n ∧
      (∀ i (hi : i < spans.length), spans[i] =
        (rotation - fov / 2 + i * fov / n, rotation - fov / 2 + (i + 1) * fov / n)) ∧
      Shares (rotation - fov / 2, rotation + fov / 2) spans := by
  have hne : (n : Rat) ≠ 0 := by
    rw [Int.cast_ne_zero]
    omega
  have hcast : ((n.toNat : Nat) : Rat) = n := by
    rw [← Int.cast_natCast, Int.toNat_of_nonneg (by omega)]
  have hend : rotation - fov / 2 + (n.toNat : Nat) * (fov / n) = rotation + fov / 2 := by
    rw [hcast]
    field_simp
    ring
  have hshares := shares_evenSpans (rotation - fov / 2) (fov / n) n.toNat
  rw [hend] at hshares
  refine ⟨_, eyeSpans_eq_evenSpans rotation fov hn, ?_, fun i hi => ?_, hshares⟩
  · rw [length_evenSpans]
    omega
  · rw [getElem_evenSpans, Prod.mk.injEq]
    constructor
    · ring
    · ring

/-- Four cells of a field of three and a half. -/
theorem eyeSpans_shares_four :
    let rotation : Rat := 1 / 3
    let fov : Rat := 7 / 2
    let n : Int := 4
    1 ≤ n ∧ ∃ spans, eyeSpans rotation fov (n : Rat) = .ok spans ∧ (spans.length : Int) = 4 ∧
      (∀ i (hi : i < spans.length), spans[i] =
        (rotation - fov / 2 + i * fov / n, rotation - fov / 2 + (i + 1) * fov / n)) ∧
      Shares (rotation - fov / 2, rotation + fov / 2) spans := by
  intro rotation fov n
  have hn : 1 ≤ n := by decide
  exact ⟨hn, eyeSpans_shares rotation fov hn⟩

end Aviary.Scene
