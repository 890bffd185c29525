import Aviary.Number
import Mathlib

/-!
# Rounding

Which results of arithmetic on integers have a float.  A mantissa is cut to 53 bits and rounded (`rounded`), a carry
moves into the exponent (`roundWithAccuracy_eq`), and the result has no float exactly if the value was at least
`2 ^ 1024 - 2 ^ 970` (`packable_roundWithAccuracy`).  Hence the integers without a float (`isInf_ofInt`), the quotients
that have one (`isFinite_quotient`), and that no integer but zero becomes zero (`ofInt_beq_zero`).
-/

namespace Aviary.Binary64

open Float.Model UnpackedFloat

/-! ### Cutting a mantissa -/

/-- How many bits of a mantissa are dropped for the result to have the precision of a float. -/
def surplus (m : Nat) (e : Int) : Nat := (Format.binary64.targetExponent (totalExponent m e) - e).toNat

private theorem add_surplus (m : Nat) (e : Int) : e + surplus m e = max e (max (m.log2 + e - 52) (-1074)) := by
  have hmin : Format.binary64.minExponent = -1074 := by decide
  have hbits : Format.binary64.mantissaBits = 53 := by decide
  unfold surplus Format.targetExponent totalExponent
  rw [hmin, hbits]
  omega

/-- A mantissa without its last `k` bits, rounded; `acc` says what came after its last bit. -/
def dropBits (m k : Nat) (acc : Accuracy) : Nat :=
  (ExtendedMantissa.ofMantissaAndAccuracy m acc >>> k).roundedMantissa

private theorem mantissa_shiftRight (em : ExtendedMantissa) (k : Nat) : (em >>> k).mantissa = em.mantissa / 2 ^ k := by
  induction k with
  | zero => show em.mantissa = _; rw [Nat.pow_zero, Nat.div_one]
  | succ k ih =>
    show (em >>> k).mantissa / 2 = _
    rw [ih, Nat.div_div_eq_div_mul, Nat.pow_succ]

private theorem mantissa_ofMantissaAndAccuracy (m : Nat) (acc : Accuracy) :
    (ExtendedMantissa.ofMantissaAndAccuracy m acc).mantissa = m := by
  unfold ExtendedMantissa.ofMantissaAndAccuracy
  split <;> rfl

private theorem roundedMantissa_bounds (em : ExtendedMantissa) :
    em.mantissa ≤ em.roundedMantissa ∧ em.roundedMantissa ≤ em.mantissa + 1 := by
  obtain ⟨m, r, st⟩ := em
  cases r <;> cases st <;>
    simp only [ExtendedMantissa.roundedMantissa, ExtendedMantissa.accuracy, Accuracy.roundToNearestEven] <;> omega

private theorem dropBits_bounds (m k : Nat) (acc : Accuracy) :
    m / 2 ^ k ≤ dropBits m k acc ∧ dropBits m k acc ≤ m / 2 ^ k + 1 := by
  have h := roundedMantissa_bounds (ExtendedMantissa.ofMantissaAndAccuracy m acc >>> k)
  rwa [mantissa_shiftRight, mantissa_ofMantissaAndAccuracy] at h

private theorem roundBit_shiftRight (m k : Nat) (acc : Accuracy) :
    (ExtendedMantissa.ofMantissaAndAccuracy m acc >>> (k + 1)).roundBit = (m / 2 ^ k % 2 != 0) := by
  show ((ExtendedMantissa.ofMantissaAndAccuracy m acc >>> k).mantissa % 2 != 0) = _
  rw [mantissa_shiftRight, mantissa_ofMantissaAndAccuracy]

/-- Below one half nothing is added. -/
private theorem roundedMantissa_of_roundBit_false {em : ExtendedMantissa} (h : em.roundBit = false) :
    em.roundedMantissa = em.mantissa := by
  obtain ⟨m, r, st⟩ := em
  cases h
  cases st <;> rfl

/-- From one half on an odd mantissa grows. -/
private theorem roundedMantissa_of_roundBit_true {em : ExtendedMantissa} (h : em.roundBit = true)
    (hm : em.mantissa % 2 = 1) : em.roundedMantissa = em.mantissa + 1 := by
  obtain ⟨m, r, st⟩ := em
  cases h
  cases st
  · show m + m % 2 = m + 1
    rw [show m % 2 = 1 from hm]
  · rfl

private theorem log2_lt_surplus (m : Nat) (e : Int) : m.log2 < 53 + surplus m e := by
  have h := add_surplus m e
  omega

private theorem div_surplus_lt (m : Nat) (e : Int) : m / 2 ^ surplus m e < 2 ^ 53 := by
  by_cases hm : m = 0
  · rw [hm, Nat.zero_div]
    exact Nat.two_pow_pos 53
  · rw [Nat.div_lt_iff_lt_mul (Nat.two_pow_pos _), ← Nat.pow_add]
    exact (Nat.log2_lt hm).mp (log2_lt_surplus m e)

/-- A mantissa rounded to the precision of a float; a carry may give it one bit more. -/
def rounded (m : Nat) (e : Int) (acc : Accuracy) : Nat := dropBits m (surplus m e) acc

private theorem rounded_le (m : Nat) (e : Int) (acc : Accuracy) : rounded m e acc ≤ 2 ^ 53 := by
  have h := (dropBits_bounds m (surplus m e) acc).2
  have h' := div_surplus_lt m e
  unfold rounded
  omega

private theorem rounded_pos {m : Nat} {e : Int} (acc : Accuracy) (hm : m ≠ 0) (h : surplus m e ≤ m.log2) :
    rounded m e acc ≠ 0 := by
  have hq : 0 < m / 2 ^ surplus m e := Nat.div_pos ((Nat.le_log2 hm).mp h) (Nat.two_pow_pos _)
  have hr := (dropBits_bounds m (surplus m e) acc).1
  unfold rounded
  omega

/-- The result of rounding: a carry out of the mantissa moves into the exponent. -/
theorem roundWithAccuracy_eq (s : Sign) (m : Nat) (e : Int) (acc : Accuracy) :
    roundWithAccuracy Format.binary64 s m e acc =
      if rounded m e acc = 2 ^ 53 then .finite s (2 ^ 52) (e + surplus m e + 1) (Nat.two_pow_pos 52)
      else if h : rounded m e acc = 0 then .zero s
      else .finite s (rounded m e acc) (e + surplus m e) (Nat.pos_of_ne_zero h) := by
  have hshift : ∀ r e₁, shiftToTargetExponent Format.binary64 r e₁ .exact =
      (ExtendedMantissa.ofMantissaAndAccuracy r .exact >>> surplus r e₁, e₁ + surplus r e₁) := fun _ _ => rfl
  have hunfold : roundWithAccuracy Format.binary64 s m e acc =
      if h : rounded m e acc / 2 ^ surplus (rounded m e acc) (e + surplus m e) = 0 then .zero s
      else .finite s (rounded m e acc / 2 ^ surplus (rounded m e acc) (e + surplus m e))
        (e + surplus m e + surplus (rounded m e acc) (e + surplus m e)) (Nat.pos_of_ne_zero h) := by
    unfold roundWithAccuracy
    simp only [hshift, mantissa_shiftRight, mantissa_ofMantissaAndAccuracy]
    rfl
  have hle := rounded_le m e acc
  have h₁ := add_surplus m e
  have h₂ := add_surplus (rounded m e acc) (e + surplus m e)
  rw [hunfold]
  generalize rounded m e acc = r at *
  by_cases hr : r = 2 ^ 53
  · have hlog : r.log2 = 53 := by rw [hr, Nat.log2_two_pow]
    have hk : surplus r (e + surplus m e) = 1 := by omega
    subst hr
    rw [if_pos rfl]
    simp only [hk]
    rfl
  · have hlog : r.log2 < 53 := by
      by_cases h0 : r = 0
      · rw [h0]; decide
      · exact (Nat.log2_lt h0).mpr (by omega)
    have hk : surplus r (e + surplus m e) = 0 := by omega
    rw [if_neg hr]
    simp only [hk, Nat.pow_zero, Nat.div_one, Int.natCast_zero, Int.add_zero]

/-! ### Overflow -/

/-- The least mantissa with the exponent `970 - d` that is too large for a float: that of `2 ^ 1024 - 2 ^ 970`, half
way between the largest float and the one that would come next. -/
def limit (d : Nat) : Nat := (2 ^ 54 - 1) * 2 ^ d

theorem le_limit (d : Nat) : 2 ^ 54 - 1 ≤ limit d := Nat.le_mul_of_pos_right _ (Nat.two_pow_pos d)

private theorem limit_add (d a : Nat) : limit (d + a) = limit d * 2 ^ a := by
  unfold limit
  rw [Nat.pow_add, Nat.mul_assoc]

theorem limit_le_add (d a : Nat) : limit d ≤ limit (d + a) := by
  rw [limit_add]
  exact Nat.le_mul_of_pos_right _ (Nat.two_pow_pos a)

/-- A rounded float that is not too large to be packed. -/
def Packable : UnpackedFloat → Prop
  | .zero _ => True
  | .finite _ _ e _ => e < 972
  | _ => False

private theorem surplus_le_log2 {m : Nat} {e : Int} (h : -1074 ≤ e) : surplus m e ≤ m.log2 := by
  have h' := add_surplus m e
  omega

private theorem rounded_eq_of_large {m d : Nat} (acc : Accuracy) {e : Int} (he : surplus m e = d + 1)
    (h : limit d ≤ m) : rounded m e acc = 2 ^ 53 := by
  have hp : 2 ^ 54 - 1 ≤ m / 2 ^ d := (Nat.le_div_iff_mul_le (Nat.two_pow_pos d)).mpr h
  have hq : m / 2 ^ (d + 1) = m / 2 ^ d / 2 := by rw [Nat.pow_succ, Nat.div_div_eq_div_mul]
  have hlt := div_surplus_lt m e
  have hbit := roundBit_shiftRight m d acc
  unfold rounded dropBits
  rw [he] at hlt ⊢
  have hm : (ExtendedMantissa.ofMantissaAndAccuracy m acc >>> (d + 1)).mantissa = 2 ^ 53 - 1 := by
    rw [mantissa_shiftRight, mantissa_ofMantissaAndAccuracy]
    omega
  have htrue : (ExtendedMantissa.ofMantissaAndAccuracy m acc >>> (d + 1)).roundBit = true := by
    rw [hbit, show m / 2 ^ d = 2 ^ 54 - 1 by omega]
    rfl
  have hup := roundedMantissa_of_roundBit_true htrue (by omega)
  omega

private theorem rounded_lt_of_small {m d : Nat} (acc : Accuracy) {e : Int} (he : surplus m e = d + 1)
    (h : m < limit d) : rounded m e acc < 2 ^ 53 := by
  have hp : m / 2 ^ d < 2 ^ 54 - 1 := (Nat.div_lt_iff_lt_mul (Nat.two_pow_pos d)).mpr h
  have hq : m / 2 ^ (d + 1) = m / 2 ^ d / 2 := by rw [Nat.pow_succ, Nat.div_div_eq_div_mul]
  have hbit := roundBit_shiftRight m d acc
  have hbounds := dropBits_bounds m (d + 1) acc
  unfold rounded
  rw [he]
  -- Only a mantissa of ones could carry, and without the round bit it does not.
  by_cases hlast : m / 2 ^ d = 2 ^ 54 - 2
  · have hfalse : (ExtendedMantissa.ofMantissaAndAccuracy m acc >>> (d + 1)).roundBit = false := by
      rw [hbit, hlast]
      rfl
    unfold dropBits
    rw [roundedMantissa_of_roundBit_false hfalse, mantissa_shiftRight, mantissa_ofMantissaAndAccuracy]
    omega
  · omega

/-- A result can be packed unless the value that was rounded reaches the limit. -/
theorem packable_roundWithAccuracy (s : Sign) (m d : Nat) (acc : Accuracy) :
    Packable (roundWithAccuracy Format.binary64 s m (970 - d) acc) ↔ m < limit d := by
  have hlimit : limit d = (2 ^ 54 - 1) * 2 ^ d := rfl
  have hE := add_surplus m (970 - d)
  have hle := rounded_le m (970 - d) acc
  have hpow : 2 ^ (53 + d) = 2 ^ 53 * 2 ^ d := Nat.pow_add ..
  have hpow' : 2 ^ (54 + d) = 2 ^ 54 * 2 ^ d := Nat.pow_add ..
  have hpos := Nat.two_pow_pos d
  rw [roundWithAccuracy_eq]
  -- The exponent that comes out is settled by the length of `m`, except for one length: there `m` is cut to 53 bits at
  -- the largest exponent of a float, and it is the carry that decides.
  by_cases h₁ : m < 2 ^ (53 + d)
  · have hlog : m.log2 < 53 + d := by
      by_cases h0 : m = 0
      · rw [h0, Nat.log2_zero]; omega
      · exact (Nat.log2_lt h0).mpr h₁
    refine iff_of_true ?_ (by omega)
    split
    · show _ < _; omega
    · split
      · trivial
      · show _ < _; omega
  · have hm : m ≠ 0 := by omega
    have hlog : 53 + d ≤ m.log2 := (Nat.le_log2 hm).mpr (by omega)
    have h0 : rounded m (970 - d) acc ≠ 0 := rounded_pos acc hm (by omega)
    rw [dif_neg h0]
    by_cases h₂ : m < 2 ^ (54 + d)
    · have hlog' : m.log2 < 54 + d := (Nat.log2_lt hm).mpr h₂
      have hs : surplus m (970 - d) = d + 1 := by omega
      by_cases h₃ : m < limit d
      · have hr := rounded_lt_of_small acc hs h₃
        rw [if_neg (by omega)]
        refine iff_of_true ?_ h₃
        show _ < _
        omega
      · have hr := rounded_eq_of_large acc hs (by omega)
        rw [if_pos hr]
        refine iff_of_false ?_ h₃
        show ¬ _ < _
        omega
    · have hlog' : 54 + d ≤ m.log2 := (Nat.le_log2 hm).mpr (by omega)
      refine iff_of_false ?_ (by omega)
      split <;> (show ¬ _ < _; omega)

private theorem unpack_pack (u : UnpackedFloat) :
    (Float.Model.pack u).unpack = UnpackedFloat.unpack Format.binary64 (UnpackedFloat.pack Format.binary64 u) := rfl

/-- The bits of a packed float. -/
private theorem pack_finite (s : Sign) (m : Nat) (e : Int) (hm : 0 < m) :
    UnpackedFloat.pack Format.binary64 (.finite s m e hm) =
      if 2047 ≤ e + 1075 then packedInfinity Format.binary64 s
      else packComponents Format.binary64 s (if m.log2 = 52 then BitVec.ofNat 11 (e + 1075).toNat else 0#11)
        (BitVec.ofNat 52 m) := by
  have hbias : (e + Format.binary64.exponentBias + Format.binary64.mantissaBitsWithoutImplicit).toNat =
      (e + 1075).toNat := by
    have h : Format.binary64.exponentBias = 1023 := by decide
    rw [h]
    show (e + 1023 + 52).toNat = _
    omega
  have hbits : (m.log2 + 1 = Format.binary64.mantissaBits) ↔ m.log2 = 52 := by
    have h : Format.binary64.mantissaBits = 53 := by decide
    rw [h]
    omega
  have hmax : (2 ^ Format.binary64.exponentBits ≤ (e + 1075).toNat + 1) ↔ 2047 ≤ e + 1075 := by
    show 2048 ≤ _ ↔ _
    omega
  simp only [UnpackedFloat.pack, hbias, hbits, hmax]
  split
  · rfl
  · split <;> rfl

private theorem unpack_packedInfinity (s : Sign) :
    (UnpackedFloat.unpack Format.binary64 (packedInfinity Format.binary64 s)).isInf = true := by
  unfold UnpackedFloat.unpack packedInfinity
  simp only [unpackExponent_packComponents, unpackMantissa_packComponents, if_true]
  rfl

private theorem isFinite_packComponents (s : Sign) {x : BitVec 11} (y : BitVec 52) (h : x ≠ -1#11) :
    (UnpackedFloat.unpack Format.binary64 (packComponents Format.binary64 s x y)).isFinite = true := by
  unfold UnpackedFloat.unpack
  simp only [unpackExponent_packComponents, unpackMantissa_packComponents]
  rw [if_neg h]
  split
  · split <;> rfl
  · rfl

private theorem eq_zero_of_packComponents {s t : Sign} {x : BitVec 11} {y : BitVec 52}
    (h : UnpackedFloat.unpack Format.binary64 (packComponents Format.binary64 s x y) = .zero t) :
    x = 0#11 ∧ y = 0#52 := by
  unfold UnpackedFloat.unpack at h
  simp only [unpackExponent_packComponents, unpackMantissa_packComponents] at h
  split at h
  · split at h <;> cases h
  · split at h
    · rename_i hx
      split at h
      · rename_i hy
        exact ⟨hx, hy⟩
      · cases h
    · cases h

private theorem ofNat_ne_ones {n : Nat} (h : n < 2047) : BitVec.ofNat 11 n ≠ -1#11 := by
  intro hn
  have h' := congrArg BitVec.toNat hn
  rw [BitVec.toNat_ofNat, Nat.mod_eq_of_lt (by omega)] at h'
  have hmax : (-1#11).toNat = 2047 := by decide
  omega

private theorem eq_zero_of_ofNat {w n : Nat} (h : n < 2 ^ w) (hn : BitVec.ofNat w n = 0#w) : n = 0 := by
  have h' := congrArg BitVec.toNat hn
  rwa [BitVec.toNat_ofNat, Nat.mod_eq_of_lt h, BitVec.toNat_zero] at h'

private theorem isFinite_pack {u : UnpackedFloat} (h : Packable u) : (Float.Model.pack u).isFinite = true := by
  show (Float.Model.pack u).unpack.isFinite = true
  rw [unpack_pack]
  cases u with
  | infinity => cases h
  | notANumber => cases h
  | zero s => exact isFinite_packComponents s 0#52 (show 0#11 ≠ -1#11 by decide)
  | finite s m e hm =>
    have h' : e < 972 := h
    rw [pack_finite, if_neg (by omega)]
    refine isFinite_packComponents s _ ?_
    split
    · exact ofNat_ne_ones (by omega)
    · decide

private theorem isInf_pack {s : Sign} {m : Nat} {e : Int} {hm : 0 < m} (h : 972 ≤ e) :
    (Float.Model.pack (.finite s m e hm)).isInf = true := by
  show (Float.Model.pack _).unpack.isInf = true
  rw [unpack_pack, pack_finite, if_pos (by omega)]
  exact unpack_packedInfinity s

/-- A finite float is not packed as a zero. -/
private theorem unpack_pack_ne_zero {s : Sign} {m : Nat} {e : Int} {hm : 0 < m} (hlt : m < 2 ^ 53) (he : -1074 ≤ e)
    (t : Sign) : (Float.Model.pack (.finite s m e hm)).unpack ≠ .zero t := by
  intro h
  rw [unpack_pack, pack_finite] at h
  split at h
  · have hinf := unpack_packedInfinity s
    rw [h] at hinf
    cases hinf
  · obtain ⟨hx, hy⟩ := eq_zero_of_packComponents h
    split at hx
    · have := eq_zero_of_ofNat (by omega) hx
      omega
    · have hlog : m.log2 < 53 := (Nat.log2_lt (by omega)).mpr hlt
      have := eq_zero_of_ofNat ((Nat.log2_lt (by omega)).mp (by omega)) hy
      omega

/-- What rounding gives: a zero, or a finite float of the right precision. -/
def Rounded : UnpackedFloat → Prop
  | .zero _ => True
  | .finite _ m e _ => m < 2 ^ 53 ∧ -1074 ≤ e
  | _ => False

private theorem rounded_roundWithAccuracy (s : Sign) (m : Nat) (e : Int) (acc : Accuracy) :
    Rounded (roundWithAccuracy Format.binary64 s m e acc) := by
  have hE := add_surplus m e
  have hle := rounded_le m e acc
  rw [roundWithAccuracy_eq]
  split
  · exact ⟨by decide, by omega⟩
  · split
    · trivial
    · exact ⟨by omega, by omega⟩

private theorem isInf_pack_iff {u : UnpackedFloat} (h : Rounded u) :
    (Float.Model.pack u).isInf = true ↔ ¬ Packable u := by
  cases u with
  | infinity => cases h
  | notANumber => cases h
  | zero s =>
    refine iff_of_false ?_ (not_not_intro trivial)
    cases s <;> decide
  | finite s m e hm =>
    by_cases he : e < 972
    · have hfin := isFinite_pack (show Packable (.finite s m e hm) from he)
      refine iff_of_false ?_ (not_not_intro he)
      unfold Float.Model.isFinite at hfin
      unfold Float.Model.isInf
      cases hu : (Float.Model.pack (.finite s m e hm)).unpack <;> rw [hu] at hfin <;>
        simp_all [UnpackedFloat.isInf, UnpackedFloat.isFinite]
    · exact iff_of_true (isInf_pack (by omega)) he

private theorem packable_neg (s : Sign) (m a : Nat) (acc : Accuracy) :
    Packable (roundWithAccuracy Format.binary64 s m (-(a : Int)) acc) ↔ m < limit 970 * 2 ^ a := by
  have h := packable_roundWithAccuracy s m (970 + a) acc
  rwa [limit_add, show (970 : Int) - (970 + a : Nat) = -(a : Int) by omega] at h

private theorem round_eq (s : Sign) (m : Nat) : ∃ a : Nat, a ≤ 1074 ∧ UnpackedFloat.round Format.binary64 s m 0 =
    roundWithAccuracy Format.binary64 s (m * 2 ^ a) (-(a : Int)) .exact := by
  refine ⟨(0 - Format.binary64.targetExponent (totalExponent m 0)).toNat, ?_, ?_⟩
  · have hmin : Format.binary64.minExponent = -1074 := by decide
    unfold Format.targetExponent
    omega
  · rw [← Nat.shiftLeft_eq, ← Int.zero_sub]
    rfl

/-- An integer other than zero is rounded with all its bits. -/
private theorem unpackedOfInt_eq {n : Int} (hn : n ≠ 0) :
    ∃ (s : Sign) (a : Nat), a ≤ 1074 ∧ UnpackedFloat.ofInt Format.binary64 n =
      roundWithAccuracy Format.binary64 s (n.natAbs * 2 ^ a) (-(a : Int)) .exact := by
  unfold UnpackedFloat.ofInt UnpackedFloat.normalize
  rcases Int.lt_trichotomy n 0 with h | h | h
  · obtain ⟨a, ha, h'⟩ := round_eq .negative (-n).toNat
    refine ⟨.negative, a, ha, ?_⟩
    rw [show compare n 0 = .lt from Int.compare_eq_lt.mpr h, show n.natAbs = (-n).toNat by omega]
    exact h'
  · exact absurd h hn
  · obtain ⟨a, ha, h'⟩ := round_eq .positive n.toNat
    refine ⟨.positive, a, ha, ?_⟩
    rw [show compare n 0 = .gt from Int.compare_eq_gt.mpr h, show n.natAbs = n.toNat by omega]
    exact h'

/-- The integers without a float are those from `2 ^ 1024 - 2 ^ 970` on, in either direction. -/
theorem isInf_ofInt {n : Int} : (ofInt n).isInf = true ↔ limit 970 ≤ n.natAbs := by
  by_cases hn : n = 0
  · have hpos := le_limit 970
    subst hn
    refine iff_of_false ?_ (by omega)
    decide
  · obtain ⟨s, a, -, h⟩ := unpackedOfInt_eq hn
    show (Float.Model.pack (UnpackedFloat.ofInt Format.binary64 n)).isInf = true ↔ _
    rw [h, isInf_pack_iff (rounded_roundWithAccuracy ..), packable_neg, Nat.not_lt,
      Nat.mul_le_mul_right_iff (Nat.two_pow_pos a)]

/-- Nothing is lost altogether if no bit is below those of a float. -/
private theorem roundWithAccuracy_ne_zero (s : Sign) {m : Nat} {e : Int} (acc : Accuracy) (hm : m ≠ 0) (he : -1074 ≤ e)
    (t : Sign) : roundWithAccuracy Format.binary64 s m e acc ≠ .zero t := by
  have hr := rounded_pos acc hm (surplus_le_log2 he)
  rw [roundWithAccuracy_eq, dif_neg hr]
  split <;> exact fun h => UnpackedFloat.noConfusion h

private theorem beq_zero_of_ne {x : Float} (h : ∀ t, x.toModel.unpack ≠ .zero t) : (x == 0) = false := by
  have hzero : (0 : Float).toModel.unpack = .zero .positive := rfl
  show x.toModel.unpack.beq (0 : Float).toModel.unpack = false
  rw [hzero]
  cases hx : x.toModel.unpack with
  | infinity s => cases s <;> rfl
  | notANumber => rfl
  | zero t => exact absurd hx (h t)
  | finite s m e hm => cases s <;> rfl

/-- No integer but zero is rounded to zero. -/
theorem ofInt_beq_zero {n : Int} (hn : n ≠ 0) : (ofInt n == 0) = false := by
  obtain ⟨s, a, ha, h⟩ := unpackedOfInt_eq hn
  have hm : n.natAbs * 2 ^ a ≠ 0 :=
    Nat.mul_ne_zero (Int.natAbs_ne_zero.mpr hn) (Nat.pos_iff_ne_zero.mp (Nat.two_pow_pos a))
  have hne := roundWithAccuracy_ne_zero s (e := -(a : Int)) .exact hm (by omega)
  have hrd := rounded_roundWithAccuracy s (n.natAbs * 2 ^ a) (-(a : Int)) .exact
  rw [← h] at hne hrd
  refine beq_zero_of_ne ?_
  show ∀ t, (Float.Model.pack (UnpackedFloat.ofInt Format.binary64 n)).unpack ≠ .zero t
  revert hne hrd
  cases UnpackedFloat.ofInt Format.binary64 n with
  | infinity => exact fun _ hrd => hrd.elim
  | notANumber => exact fun _ hrd => hrd.elim
  | zero t => exact fun hne _ => absurd rfl (hne t)
  | finite s m e hm => exact fun _ hrd => unpack_pack_ne_zero hrd.1 hrd.2

private theorem divCore_eq (m₁ m₂ : Nat) :
    ∃ (j : Nat) (acc : Accuracy), divCore Format.binary64 m₁ 0 m₂ 0 = (m₁ * 2 ^ j / m₂, -(j : Int), acc) := by
  let t := min (0 - 0) (Format.binary64.targetExponent (totalExponent m₁ 0 - totalExponent m₂ 0))
  have ht : t = -((0 - 0 - t).toNat : Int) := by omega
  refine ⟨(0 - 0 - t).toNat, accuracyOfFraction (m₁ <<< (0 - 0 - t).toNat % m₂) m₂, ?_⟩
  rw [← ht, ← Nat.shiftLeft_eq]
  rfl

/-- The quotient of two integers has a float if it is below the first integer that has none. -/
theorem isFinite_quotient {a b : Int} (h : a.natAbs < limit 970 * b.natAbs) : (quotient a b).isFinite = true := by
  refine isFinite_pack ?_
  have hb : 0 < b.natAbs := by
    refine Nat.pos_of_ne_zero fun hb => ?_
    rw [hb] at h
    omega
  unfold unrounded
  rw [dif_pos hb]
  split
  · rename_i ha
    obtain ⟨j, acc, hdiv⟩ := divCore_eq a.natAbs b.natAbs
    simp only [UnpackedFloat.div, hdiv]
    rw [packable_neg, Nat.div_lt_iff_lt_mul hb]
    calc a.natAbs * 2 ^ j < limit 970 * b.natAbs * 2 ^ j := Nat.mul_lt_mul_of_pos_right h (Nat.two_pow_pos j)
      _ = limit 970 * 2 ^ j * b.natAbs := Nat.mul_right_comm ..
  · trivial

theorem value_eq_exact_iff {x : Float} : (∃ q, value x = .exact q) ↔ x.isFinite = true := by
  show _ ↔ x.toModel.unpack.isFinite = true
  unfold value
  split <;> simp_all [UnpackedFloat.isFinite]

theorem isInf_of_isFinite {x : Float} (h : x.isFinite = true) : x.isInf = false := by
  show x.toModel.unpack.isInf = false
  have h' : x.toModel.unpack.isFinite = true := h
  cases hx : x.toModel.unpack <;> rw [hx] at h' <;> first | rfl | cases h'

/-! ### Values between zero and one -/

private theorem unpack_255 : (255.0 : Float).toModel.unpack = .finite .positive (255 * 2 ^ 45) (-45) (by decide) := rfl

private theorem scaled_le_one {m : Nat} {e : Int} (hm : 0 < m) (h : scaled m e ≤ 1) :
    ∃ j : Nat, e = -(j : Int) ∧ m ≤ 2 ^ j := by
  unfold scaled at h
  simp only [Nat.pow_eq] at h
  split at h
  · have h' : m * 2 ^ e.toNat ≤ 1 := by exact_mod_cast h
    have hm1 : m ≤ 1 := Nat.le_trans (Nat.le_mul_of_pos_right _ (Nat.two_pow_pos _)) h'
    have hpow : 2 ^ e.toNat ≤ 1 := Nat.le_trans (Nat.le_mul_of_pos_left _ hm) h'
    have he : e.toNat = 0 := by
      by_contra hne
      have := Nat.one_lt_two_pow hne
      omega
    exact ⟨0, by omega, hm1⟩
  · refine ⟨(-e).toNat, by omega, ?_⟩
    rw [Rat.mkRat_eq_div, div_le_one (by positivity)] at h
    exact_mod_cast h

private theorem scaled_neg {m : Nat} {e : Int} (hm : 0 < m) : scaled (-m) e < 0 := by
  have hneg : -(m : Int) < 0 := by omega
  unfold scaled
  simp only [Nat.pow_eq]
  split
  · have hpow : (0 : Int) < (2 ^ e.toNat : Nat) := by exact_mod_cast Nat.two_pow_pos e.toNat
    exact_mod_cast Int.mul_neg_of_neg_of_pos hneg hpow
  · rw [Rat.mkRat_eq_div]
    exact div_neg_of_neg_of_pos (by exact_mod_cast hneg) (by positivity)

/-- Nothing between zero and one is too large to be multiplied by 255. -/
theorem isFinite_mul_255 {x : Float} {q : Rat} (h : value x = .exact q) (h₀ : 0 ≤ q) (h₁ : q ≤ 1) :
    (x * 255.0).isFinite = true := by
  refine isFinite_pack ?_
  rw [unpack_255]
  unfold value at h
  cases hx : x.toModel.unpack with
  | infinity s => rw [hx] at h; cases s <;> cases h
  | notANumber => rw [hx] at h; cases h
  | zero s => trivial
  | finite s m e hm =>
    rw [hx] at h
    cases s with
    | negative =>
      obtain rfl := Value.exact.inj h
      exact absurd (scaled_neg hm) (not_lt.mpr h₀)
    | positive =>
      obtain rfl := Value.exact.inj h
      obtain ⟨j, rfl, hj⟩ := scaled_le_one hm h₁
      show Packable (roundWithAccuracy _ _ (m * (255 * 2 ^ 45)) (-(j : Int) + -45) .exact)
      rw [show -(j : Int) + -45 = -((j + 45 : Nat) : Int) by omega, packable_neg]
      have hlimit := le_limit 970
      calc m * (255 * 2 ^ 45) ≤ 2 ^ j * (255 * 2 ^ 45) := Nat.mul_le_mul_right _ hj
        _ = 255 * 2 ^ (j + 45) := by rw [Nat.pow_add]; ring
        _ < limit 970 * 2 ^ (j + 45) := Nat.mul_lt_mul_of_pos_right (by omega) (Nat.two_pow_pos _)

end Aviary.Binary64
