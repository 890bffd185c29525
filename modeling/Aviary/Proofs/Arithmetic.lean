import Aviary.Proofs.Rounding

/-!
# Arithmetic that has a result

A number has a float unless it is an integer beyond all floats (`HasFloat`).  That is all that the arithmetic of
geometry asks for: half of a number and its product with a float exist exactly if it has a float (`exists_half_iff`,
`exists_mul_real`, `hasFloat_of_mul_real`), and so does its quotient by a positive integer if both have one
(`exists_div`).  What can be counted has a float, and each of its numbers has one too (`count_whole`).
-/

namespace Aviary.Number

open Binary64

/-- Whether there is a float for a number. -/
def HasFloat : Number → Prop
  | whole n => n.natAbs < limit 970
  | real _ => True

theorem toFloat_whole {n : Int} (h : (whole n).HasFloat) : (whole n).toFloat = .ok (ofInt n) := by
  have hinf : ¬ (ofInt n).isInf = true := by
    rw [isInf_ofInt]
    exact Nat.not_le.mpr h
  exact if_neg hinf

theorem hasFloat_iff {a : Number} : a.HasFloat ↔ ∃ x, a.toFloat = .ok x := by
  cases a with
  | real x => exact iff_of_true trivial ⟨x, rfl⟩
  | whole n =>
    by_cases hn : (whole n).HasFloat
    · exact iff_of_true hn ⟨_, toFloat_whole hn⟩
    · have hinf : (ofInt n).isInf = true := isInf_ofInt.mpr (Nat.not_lt.mp hn)
      have herr : (whole n).toFloat = .error .integerTooLarge := if_pos hinf
      rw [herr]
      exact iff_of_false hn fun ⟨x, hx⟩ => by cases hx

/-- Every integer that is not huge has a float. -/
theorem hasFloat_of_natAbs_le {n : Int} (h : n.natAbs ≤ 2 ^ 60) : (whole n).HasFloat :=
  calc n.natAbs < limit 7 := Nat.lt_of_le_of_lt h (by decide)
    _ ≤ limit (7 + 963) := limit_le_add 7 963

theorem exists_half_iff {a : Number} : (∃ b, a.half = .ok b) ↔ a.HasFloat := by
  rw [hasFloat_iff]
  unfold half
  constructor
  · rintro ⟨b, hb⟩
    obtain ⟨x, hx, -⟩ := Fault.bind_eq_ok_iff.mp hb
    exact ⟨x, hx⟩
  · rintro ⟨x, hx⟩
    exact ⟨real (x / 2.0), Fault.bind_eq_ok_iff.mpr ⟨x, hx, rfl⟩⟩

private theorem mul_real {a : Number} {y : Float} : a.mul (real y) = (do return real ((← a.toFloat) * y)) := by
  cases a <;> rfl

theorem mul_real_of_toFloat {a : Number} {x : Float} (h : a.toFloat = .ok x) (y : Float) :
    a.mul (real y) = .ok (real (x * y)) := by
  rw [mul_real, h]
  rfl

theorem exists_mul_real {a : Number} (h : a.HasFloat) (y : Float) : ∃ z, a.mul (real y) = .ok (real z) := by
  obtain ⟨x, hx⟩ := hasFloat_iff.mp h
  exact ⟨x * y, mul_real_of_toFloat hx y⟩

theorem hasFloat_of_mul_real {a b : Number} {y : Float} (h : a.mul (real y) = .ok b) : a.HasFloat := by
  rw [mul_real, Fault.bind_eq_ok_iff] at h
  obtain ⟨x, hx, -⟩ := h
  exact hasFloat_iff.mpr ⟨x, hx⟩

theorem real_div_whole {x : Float} {k : Int} (hk : k ≠ 0) (hf : (whole k).HasFloat) :
    (real x).div (whole k) = .ok (real (x / ofInt k)) := by
  show (do let y ← toFloat (whole k); if y == 0 then _ else _) = _
  rw [toFloat_whole hf]
  show (if ofInt k == 0 then _ else _) = _
  rw [ofInt_beq_zero hk]
  rfl

/-- A number with a float can be divided by a positive integer with one: the quotient is no larger than the number. -/
theorem exists_div {a : Number} {k : Int} (ha : a.HasFloat) (hk : 1 ≤ k) (hf : (whole k).HasFloat) :
    ∃ z, a.div (whole k) = .ok (real z) := by
  have hk0 : k ≠ 0 := by omega
  cases a with
  | whole n =>
    have hlt : n.natAbs < limit 970 * k.natAbs :=
      Nat.lt_of_lt_of_le ha (Nat.le_mul_of_pos_right _ (by omega))
    have hinf := isInf_of_isFinite (isFinite_quotient hlt)
    refine ⟨quotient n k, ?_⟩
    show (if k = 0 then _ else if (quotient n k).isInf then _ else _) = _
    rw [if_neg hk0, if_neg (by rw [hinf]; decide)]
  | real x => exact ⟨x / ofInt k, real_div_whole hk0 hf⟩

theorem whole_le_iff {a b : Int} : (whole a).le (whole b) = true ↔ a ≤ b := by
  simp only [le, value, Value.le, Value.lt, Value.same, Bool.or_eq_true, decide_eq_true_eq, Value.exact.injEq,
    Rat.intCast_lt_intCast, Rat.intCast_inj]
  omega

/-! ### Counting -/

/-- Whatever is counted has at most `2 ^ 60` elements, as their addresses end there. -/
private theorem countFloat_le {x : Float} {n : Nat} (h : countFloat x = .ok n) : n ≤ 2 ^ 60 := by
  unfold countFloat at h
  split at h
  · cases h
  · cases h
  · cases h
  · rename_i q _
    split at h
    · cases h
    split at h
    · obtain rfl := Except.ok.inj h
      exact Nat.zero_le _
    split at h
    · cases h
    · rename_i hlt
      obtain rfl := Except.ok.inj h
      have hle : q ≤ ((2 ^ 60 : Int) : Rat) := by
        rw [not_le] at hlt
        exact hlt.le.trans (by norm_num)
      have hceil := Rat.ceil_le_iff.mpr hle
      omega

private theorem hasFloat_of_countFloat {k : Int} {n : Nat} (h : countFloat (ofInt k) = .ok n) :
    (whole k).HasFloat := by
  have hfin : (ofInt k).isFinite = true := by
    refine value_eq_exact_iff.mp ?_
    unfold countFloat at h
    cases hv : Binary64.value (ofInt k) with
    | exact q => exact ⟨q, rfl⟩
    | undefined => rw [hv] at h; cases h
    | belowAll => rw [hv] at h; cases h
    | aboveAll => rw [hv] at h; cases h
  have hinf : ¬ (ofInt k).isInf = true := by rw [isInf_of_isFinite hfin]; decide
  rw [isInf_ofInt] at hinf
  exact Nat.not_le.mp hinf

/-- An integer that has a float of its own is counted exactly. -/
theorem extent_whole {k : Int} (hk : k < 2 ^ 53) : (whole k).extent = .ok k.toNat := if_pos (by omega)

section Counting

variable [Memory]

theorem count_eq_ok_iff {a : Number} {n : Nat} :
    a.count = .ok n ↔ a.extent = .ok n ∧ ∀ r ∈ Request.spans n a.kind, Memory.holds r = true := by
  unfold count
  rw [Fault.bind_eq_ok_iff, ← Memory.grant_eq_ok_iff]
  constructor
  · rintro ⟨m, hm, h⟩
    obtain ⟨_, hgrant, h⟩ := Fault.bind_eq_ok_iff.mp h
    obtain rfl := Except.ok.inj h
    exact ⟨hm, hgrant⟩
  · rintro ⟨hn, hgrant⟩
    exact ⟨n, hn, Fault.bind_eq_ok_iff.mpr ⟨(), hgrant, rfl⟩⟩

/-- What can be counted has a float, and is not too many to have one each. -/
theorem count_whole {k : Int} {n : Nat} (hk : 1 ≤ k) (h : (whole k).count = .ok n) :
    (whole k).HasFloat ∧ n ≤ 2 ^ 60 := by
  obtain ⟨he, -⟩ := count_eq_ok_iff.mp h
  replace he : (if k < 0x20000000000000 then Except.ok k.toNat else countFloat (ofInt k)) = Except.ok n := he
  -- From `2 ^ 53` on an integer is counted by the float nearest to it, which may be larger.
  split at he
  · have hnk := Except.ok.inj he
    exact ⟨hasFloat_of_natAbs_le (by omega), by omega⟩
  · exact ⟨hasFloat_of_countFloat he, countFloat_le he⟩

end Counting

end Aviary.Number
