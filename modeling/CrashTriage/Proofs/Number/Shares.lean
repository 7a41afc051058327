import CrashTriage.Proofs.Number.Single

/-!
# Shares in single precision

A share is a count divided by one that is not smaller. Both counts are rounded before they are
divided, and so is the quotient; but rounding keeps the order of counts
(`Single.toFloat32_le_toFloat32`), and so **a share is at most one** (`Single.div_le_one`). What it
leaves of one is never below zero (`Single.not_one_sub_div_lt_zero`).

Rounding to 24 bits keeps the order among numbers of one length, where it cuts off the same number
of bits (`Single.rounded_le_rounded`). A shorter number stays below the longer ones, even if
rounding up brings it to the next power of two.
-/

namespace CrashTriage

namespace Single

open Float.Model (Format UnpackedFloat totalExponent)
open Float.Model.UnpackedFloat

variable {m m' : Nat} {e e' : Int} {x y : Float32}

/-! ### The order of numbers -/

/-- **Positive numbers with mantissas of 24 bits are in the order of their exponents**, and those
with the same exponent in the order of their mantissas. -/
theorem le_iff {h : 0 < m} {h' : 0 < m'} (hx : x.toModel.unpack = .finite .positive m e h)
    (hy : y.toModel.unpack = .finite .positive m' e' h') :
    x ≤ y ↔ e < e' ∨ (e = e' ∧ m ≤ m') := by
  have hle : x ≤ y ↔ (x.toModel.unpack.compare y.toModel.unpack).any (·.isLE) = true :=
    decide_eq_true_iff
  rw [hle, hx, hy]
  show ((compare e e').then (compare m m')).isLE = true ↔ _
  rcases lt_trichotomy e e' with hlt | rfl | hgt
  · simp [compare_lt_iff_lt.mpr hlt, hlt]
  · simp [Nat.isLE_compare]
  · simp [compare_gt_iff_gt.mpr hgt, hgt.not_gt, hgt.ne']

/-- Mantissas that are made to fit stay in their order. -/
theorem IsCarried.le {r r' : Nat} {k k' : Int} (h : IsCarried r k m e) (h' : IsCarried r' k' m' e')
    (hm : IsFull m) (hm' : IsFull m') (hle : k < k' ∨ (k = k' ∧ r ≤ r')) :
    e < e' ∨ (e = e' ∧ m ≤ m') := by
  have hhigh := hm.2
  obtain ⟨hlow', hhigh'⟩ := hm'
  rcases h with ⟨rfl, rfl⟩ | ⟨rfl, rfl, rfl⟩ <;>
    rcases h' with ⟨rfl, rfl⟩ | ⟨rfl, rfl, rfl⟩ <;> omega

/-! ### Rounding keeps the order -/

/-- Cutting off bits rounds up if more than half of the last bit that stays is cut off, or exactly
half of it and this makes the rest even. -/
theorem roundedMantissa_shiftRight (m k : Nat) :
    ((⟨m, false, false⟩ : ExtendedMantissa) >>> (k + 1)).roundedMantissa
      = m / 2 ^ (k + 1) + if 2 ^ k < m % 2 ^ (k + 1) + m / 2 ^ (k + 1) % 2 then 1 else 0 := by
  have hmod : m % 2 ^ (k + 1) = m % 2 ^ k + 2 ^ k * (m / 2 ^ k % 2) := Nat.mod_pow_succ
  have hlt := Nat.mod_lt m (Nat.two_pow_pos k)
  rw [shiftRight_exact, ExtendedMantissa.roundedMantissa, hmod]
  rcases Nat.mod_two_eq_zero_or_one (m / 2 ^ k) with hround | hround <;>
    rcases Nat.eq_zero_or_pos (m % 2 ^ k) with hsticky | hsticky <;>
      simp [ExtendedMantissa.accuracy, Accuracy.roundToNearestEven, hround, hsticky] <;> grind

/-- Cutting off the same number of bits keeps the order. -/
theorem roundedMantissa_shiftRight_le (h : m ≤ m') (k : Nat) :
    ((⟨m, false, false⟩ : ExtendedMantissa) >>> k).roundedMantissa
      ≤ ((⟨m', false, false⟩ : ExtendedMantissa) >>> k).roundedMantissa := by
  cases k with
  | zero => exact h
  | succ k =>
    have hdiv : m / 2 ^ (k + 1) ≤ m' / 2 ^ (k + 1) := Nat.div_le_div_right h
    have hsum := Nat.div_add_mod m (2 ^ (k + 1))
    have hsum' := Nat.div_add_mod m' (2 ^ (k + 1))
    rw [roundedMantissa_shiftRight, roundedMantissa_shiftRight]
    rcases Nat.lt_or_eq_of_le hdiv with hlt | heq
    · -- rounding up does not reach beyond the next number
      split <;> split <;> omega
    · -- with the same bits kept, the larger number has the larger rest
      have hrest : m % 2 ^ (k + 1) ≤ m' % 2 ^ (k + 1) := by
        rw [heq] at hsum
        omega
      rw [heq]
      split <;> split <;> omega

/-- **Rounding keeps the order** of numbers that are equally long. -/
theorem rounded_le_rounded (h : m ≤ m') (hlog : m.log2 = m'.log2) :
    rounded m .exact ≤ rounded m' .exact := by
  rw [rounded, rounded, hlog]
  exact roundedMantissa_shiftRight_le h _

/-- **Counts stay in their order** when they become numbers of single precision. -/
theorem toFloat32_le_toFloat32 {n n' : Nat} (hpos : 0 < n) (hle : n ≤ n') (hlt : n' < 2 ^ 64) :
    n.toFloat32 ≤ n'.toFloat32 := by
  have hpos' : 0 < n' := Nat.lt_of_lt_of_le hpos hle
  obtain ⟨m, e, h, hunpack, hfull, hcarried⟩ := unpack_toFloat32 hpos (Nat.lt_of_le_of_lt hle hlt)
  obtain ⟨m', e', h', hunpack', hfull', hcarried'⟩ := unpack_toFloat32 hpos' hlt
  rw [le_iff hunpack hunpack']
  refine hcarried.le hcarried' hfull hfull' ?_
  have hlog : n.log2 ≤ n'.log2 :=
    (Nat.le_log2 hpos'.ne').mpr ((Nat.log2_self_le hpos.ne').trans hle)
  rcases Nat.lt_or_eq_of_le hlog with hshorter | hequal
  · exact Or.inl (by omega)
  · refine Or.inr ⟨by rw [hequal], rounded_le_rounded (Nat.mul_le_mul_right _ hle) ?_⟩
    rw [log2_mul_two_pow hpos.ne', log2_mul_two_pow hpos'.ne', hequal]

/-! ### Shares -/

/-- **A share is at most one.** -/
theorem div_le_one (hx : IsModerate x) (hy : IsModerate y) (hle : x ≤ y) :
    ∃ (q : Nat) (k : Int) (hq : 0 < q), (x / y).toModel.unpack = .finite .positive q k hq
      ∧ (k < -23 ∨ (k = -23 ∧ q ≤ 2 ^ 23)) ∧ IsFull q := by
  obtain ⟨m, e, h, hx, hm, hxlow, hxhigh⟩ := hx
  obtain ⟨m', e', h', hy, hm', hylow, hyhigh⟩ := hy
  obtain ⟨q, k, hq, hquotient, hfull, hcarried⟩ := unpack_div hx hy hm hm' (by omega) (by omega)
  have hone : IsCarried (2 ^ 23) (-23) (2 ^ 23) (-23) := Or.inl ⟨rfl, rfl⟩
  refine ⟨q, k, hq, hquotient, hcarried.le hone hfull ⟨le_rfl, by norm_num⟩ ?_, hfull⟩
  obtain ⟨hqlow, hqhigh⟩ := quotient_bounds h' hm hm'
  have hlog : (m * 2 ^ 24 / m').log2 < 25 := (Nat.log2_lt (by omega)).mpr hqhigh
  rcases (le_iff hx hy).mp hle with hlt | ⟨rfl, hmantissa⟩
  · exact Or.inl (by omega)
  · rcases Nat.lt_or_eq_of_le hmantissa with hlt | rfl
    · -- the quotient of the mantissas has 24 bits only
      have hshort : m * 2 ^ 24 / m' < 2 ^ 24 := by
        rw [Nat.div_lt_iff_lt_mul h', Nat.mul_comm]
        exact Nat.mul_lt_mul_of_pos_left hlt (Nat.two_pow_pos 24)
      have hlog' : (m * 2 ^ 24 / m').log2 < 24 := (Nat.log2_lt (by omega)).mpr hshort
      exact Or.inl (by omega)
    · right
      rw [Nat.mul_div_cancel_left _ h, Nat.mul_mod_right]
      have hpower : rounded (2 ^ 24) .exact = 2 ^ 23 :=
        rounded_mul_two_pow ⟨le_rfl, by norm_num⟩ 1
      exact ⟨by rw [Nat.log2_two_pow]; omega, hpower.le⟩

/-! ### What a share leaves of one -/

/-- What has the bit of a positive sign is not below zero. -/
theorem not_lt_zero_of_unpackSign {b : BitVec Format.binary32.numBits}
    (h : unpackSign b = Sign.positive.toBitVec) :
    ((unpack .binary32 b).compare (.zero .positive) == some .lt) = false := by
  have hsign : Sign.ofBitVec (unpackSign b) = .positive := by
    rw [h]
    rfl
  rw [unpack]
  simp only [hsign]
  split
  · split <;> rfl
  · split
    · split <;> rfl
    · rfl

/-- A positive number is packed with a positive sign, whatever its size. -/
theorem unpackSign_pack_finite {h : 0 < m} :
    unpackSign (pack .binary32 (.finite .positive m e h)) = Sign.positive.toBitVec := by
  rw [pack]
  dsimp only
  split
  · rw [packedInfinity, unpackSign_packComponents]
  · split <;> rw [unpackSign_packComponents]

theorem unpackSign_pack_round (spec : Format) (accuracy : Accuracy) :
    unpackSign (pack .binary32 (roundWithAccuracy spec .positive m e accuracy))
      = Sign.positive.toBitVec := by
  rw [roundWithAccuracy]
  dsimp only
  split
  · rw [pack, packedZero, unpackSign_packComponents]
  · exact unpackSign_pack_finite

theorem unpackSign_pack_normalize {v : Int} (hv : 0 ≤ v) :
    unpackSign (pack .binary32 (UnpackedFloat.normalize .binary32 v e .positive))
      = Sign.positive.toBitVec := by
  rw [UnpackedFloat.normalize]
  split
  · next hlt => exact absurd (compare_lt_iff_lt.mp hlt) hv.not_gt
  · rw [pack, packedZero, unpackSign_packComponents]
  · rw [UnpackedFloat.round]
    exact unpackSign_pack_round _ _

/-- **What a share leaves of one is not below zero.** -/
theorem not_one_sub_div_lt_zero (hx : IsModerate x) (hy : IsModerate y) (hle : x ≤ y) :
    ¬1 - x / y < 0 := by
  obtain ⟨q, k, hq, hquotient, hone, hfull⟩ := div_le_one hx hy hle
  have hunpack : (1 : Float32).toModel.unpack
      = .finite .positive (2 ^ 23) (-23) (Nat.two_pow_pos 23) := rfl
  have hdifference : (1 - x / y : Float32).toModel.unpack
      = unpack .binary32 (pack .binary32
          (sub .binary32 (1 : Float32).toModel.unpack (x / y).toModel.unpack)) := rfl
  have hlt : 1 - x / y < 0
      ↔ ((1 - x / y : Float32).toModel.unpack.compare (.zero .positive) == some .lt) = true :=
    decide_eq_true_iff
  -- one is brought to the exponent of the share, which is not larger
  have hmin : min (-23) k = k := by omega
  have hnonneg : 0 ≤ ((2 ^ 23 <<< (-23 - k).toNat : Nat) : Int) - q := by
    have hhigh := hfull.2
    rw [Nat.shiftLeft_eq]
    rcases hone with hlt | ⟨-, hle⟩
    · have hpower : 2 ^ 1 ≤ 2 ^ (-23 - k).toNat := Nat.pow_le_pow_right (by norm_num) (by omega)
      omega
    · have hlarge : 2 ^ 23 ≤ 2 ^ 23 * 2 ^ (-23 - k).toNat :=
        Nat.le_mul_of_pos_right _ (Nat.two_pow_pos _)
      exact Int.sub_nonneg_of_le (Int.ofNat_le.mpr (hle.trans hlarge))
  have hsub : sub .binary32 (.finite .positive (2 ^ 23) (-23) (by norm_num))
        (.finite .positive q k hq)
      = UnpackedFloat.normalize .binary32 (((2 ^ 23 <<< (-23 - k).toNat : Nat) : Int) - q) k
          .positive := by
    rw [sub]
    simp only [decreaseExponent, hmin, Int.sub_self]
    rfl
  rw [hlt, hdifference, hunpack, hquotient, hsub,
    not_lt_zero_of_unpackSign (unpackSign_pack_normalize hnonneg)]
  exact Bool.false_ne_true

end Single

end CrashTriage
