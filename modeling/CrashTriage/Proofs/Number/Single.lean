import Mathlib

/-!
# Counts as numbers of single precision

The distances are made of counts in a last step of floating point arithmetic: a count is divided by
another one. A count that is not zero and fits in 64 bits becomes a number far from zero and from
infinity (`Single.isModerate_toFloat32`). For such numbers three quotients are known, whatever was
lost when the counts were rounded: zero divided by one of them is zero (`Single.zero_div`), one of
them divided by itself is one (`Single.div_self`), and no quotient of two is zero
(`Single.div_ne_zero`).

Rounding brings every mantissa of at least 24 bits to exactly 24 bits
(`Single.roundWithAccuracy_eq`): to its value (`Single.rounded`), or, if rounding up needs another
bit, to half of it (`Single.IsCarried`). A mantissa of 24 bits is packed and unpacked again without
loss as long as the exponent fits (`Single.unpack_pack`).
-/

namespace CrashTriage

namespace Single

open Float.Model (Format UnpackedFloat totalExponent)
open Float.Model.UnpackedFloat

/-! ### Mantissas of 24 bits -/

/-- A mantissa of exactly 24 bits. -/
def IsFull (m : Nat) : Prop :=
  2 ^ 23 ≤ m ∧ m < 2 ^ 24

/-- **The number is positive, and far from both ends of the range.** -/
def IsModerate (x : Float32) : Prop :=
  ∃ (m : Nat) (e : Int) (h : 0 < m),
    x.toModel.unpack = .finite .positive m e h ∧ IsFull m ∧ -46 ≤ e ∧ e ≤ 43

/-- The bits of a long mantissa that are in front of the last ones. -/
theorem isFull_div {m : Nat} (h : 2 ^ 23 ≤ m) : IsFull (m / 2 ^ (m.log2 - 23)) := by
  have hne : m ≠ 0 := by omega
  have hlog : 23 ≤ m.log2 := (Nat.le_log2 hne).mpr h
  have hpos : 0 < 2 ^ (m.log2 - 23) := Nat.two_pow_pos _
  have hlow : 2 ^ 23 * 2 ^ (m.log2 - 23) ≤ m := by
    rw [← Nat.pow_add, Nat.add_sub_cancel' hlog]
    exact Nat.log2_self_le hne
  have hhigh : m < 2 ^ 24 * 2 ^ (m.log2 - 23) := by
    rw [← Nat.pow_add, (by omega : 24 + (m.log2 - 23) = m.log2 + 1)]
    exact Nat.lt_log2_self
  exact ⟨(Nat.le_div_iff_mul_le hpos).mpr hlow, (Nat.div_lt_iff_lt_mul hpos).mpr hhigh⟩

theorem log2_of_isFull {m : Nat} (h : IsFull m) : m.log2 = 23 := by
  have hne : m ≠ 0 := by
    have := h.1
    omega
  have hge : 23 ≤ m.log2 := (Nat.le_log2 hne).mpr h.1
  have hlt : m.log2 < 24 := (Nat.log2_lt hne).mpr h.2
  omega

theorem log2_mul_two_pow {m : Nat} (hm : m ≠ 0) (k : Nat) : (m * 2 ^ k).log2 = m.log2 + k := by
  induction k with
  | zero => rw [Nat.pow_zero, Nat.mul_one, Nat.add_zero]
  | succ k ih =>
    have hne : m * 2 ^ k ≠ 0 := Nat.mul_ne_zero hm (Nat.two_pow_pos k).ne'
    rw [Nat.pow_succ, ← Nat.mul_assoc, Nat.mul_comm _ 2, Nat.log2_two_mul hne, ih, Nat.add_assoc]

/-! ### Rounding -/

theorem mantissa_shiftRight (em : ExtendedMantissa) (k : Nat) :
    (em >>> k).mantissa = em.mantissa / 2 ^ k := by
  induction k with
  | zero => simp [HShiftRight.hShiftRight, Nat.repeat]
  | succ k ih =>
    rw [Nat.pow_succ, ← Nat.div_div_eq_div_mul, ← ih]
    rfl

theorem mantissa_ofMantissaAndAccuracy (m : Nat) (accuracy : Accuracy) :
    (ExtendedMantissa.ofMantissaAndAccuracy m accuracy).mantissa = m := by
  cases accuracy with
  | exact => rfl
  | inexact ordering => cases ordering <;> rfl

/-- Rounding moves a mantissa by one at most. -/
theorem roundedMantissa_bounds (em : ExtendedMantissa) :
    em.mantissa ≤ em.roundedMantissa ∧ em.roundedMantissa ≤ em.mantissa + 1 := by
  obtain ⟨m, r, s⟩ := em
  rw [ExtendedMantissa.roundedMantissa]
  cases r <;> cases s <;>
    simp only [ExtendedMantissa.accuracy, Accuracy.roundToNearestEven] <;> omega

/-- Shifting an exact mantissa keeps the first bit that is cut off, and whether one behind it is
set. -/
theorem shiftRight_exact (m k : Nat) :
    (⟨m, false, false⟩ : ExtendedMantissa) >>> (k + 1)
      = ⟨m / 2 ^ (k + 1), m / 2 ^ k % 2 != 0, m % 2 ^ k != 0⟩ := by
  induction k with
  | zero => simp [HShiftRight.hShiftRight, Nat.repeat, ExtendedMantissa.shiftRightOne, Nat.mod_one]
  | succ k ih =>
    have hstep : (⟨m, false, false⟩ : ExtendedMantissa) >>> (k + 1 + 1)
        = ((⟨m, false, false⟩ : ExtendedMantissa) >>> (k + 1)).shiftRightOne := rfl
    have hmod : m % 2 ^ (k + 1) = m % 2 ^ k + 2 ^ k * (m / 2 ^ k % 2) := Nat.mod_pow_succ
    have hpos := Nat.two_pow_pos k
    rw [hstep, ih, ExtendedMantissa.shiftRightOne, hmod, Nat.div_div_eq_div_mul, ← Nat.pow_succ]
    rcases Nat.mod_two_eq_zero_or_one (m / 2 ^ k) with hbit | hbit <;> rw [hbit] <;> simp

theorem targetExponent_eq (t : Int) : Format.binary32.targetExponent t = max (t - 24) (-149) :=
  rfl

/-- **A long mantissa is cut to 24 bits**, and the exponent rises by the number of bits cut off. -/
theorem shiftToTargetExponent_eq {m : Nat} {e : Int} (hm : 2 ^ 23 ≤ m) (he : -149 ≤ e)
    (accuracy : Accuracy) :
    shiftToTargetExponent .binary32 m e accuracy
      = (ExtendedMantissa.ofMantissaAndAccuracy m accuracy >>> (m.log2 - 23),
          e + (m.log2 - 23 : Nat)) := by
  have hlog : 23 ≤ m.log2 := (Nat.le_log2 (by omega)).mpr hm
  have htarget : (Format.binary32.targetExponent (totalExponent m e) - e).toNat
      = m.log2 - 23 := by
    rw [targetExponent_eq, totalExponent]
    omega
  rw [shiftToTargetExponent, shiftToExponent, htarget]

/-- The mantissa that a long one is rounded to: one of 24 bits, or the power of two behind them. -/
def rounded (m : Nat) (accuracy : Accuracy) : Nat :=
  (ExtendedMantissa.ofMantissaAndAccuracy m accuracy >>> (m.log2 - 23)).roundedMantissa

theorem rounded_bounds {m : Nat} (hm : 2 ^ 23 ≤ m) (accuracy : Accuracy) :
    2 ^ 23 ≤ rounded m accuracy ∧ rounded m accuracy ≤ 2 ^ 24 := by
  obtain ⟨hle, hge⟩ := roundedMantissa_bounds
    (ExtendedMantissa.ofMantissaAndAccuracy m accuracy >>> (m.log2 - 23))
  obtain ⟨hlow, hhigh⟩ := isFull_div hm
  rw [mantissa_shiftRight, mantissa_ofMantissaAndAccuracy] at hle hge
  rw [rounded]
  omega

/-- **Nothing is lost** where all bits that are cut off are zero. -/
theorem rounded_mul_two_pow {m : Nat} (hm : IsFull m) (k : Nat) :
    rounded (m * 2 ^ k) .exact = m := by
  have hlog : (m * 2 ^ k).log2 - 23 = k := by
    rw [log2_mul_two_pow (by have := hm.1; omega), log2_of_isFull hm, Nat.add_sub_cancel_left]
  rw [rounded, hlog, ExtendedMantissa.ofMantissaAndAccuracy]
  cases k with
  | zero => exact Nat.mul_one m
  | succ k =>
    have hbits : m * 2 ^ (k + 1) = 2 ^ k * (m * 2) := by
      rw [Nat.pow_succ]
      ring
    rw [shiftRight_exact, Nat.mul_div_cancel _ (Nat.two_pow_pos _), hbits,
      Nat.mul_div_cancel_left _ (Nat.two_pow_pos k), Nat.mul_mod_left, Nat.mul_mod_right]
    rfl

/-- **A rounded mantissa is made to fit**: it stays as it is, unless rounding up needs another bit;
then it is halved, and the exponent rises by one. -/
def IsCarried (r : Nat) (e : Int) (m : Nat) (e' : Int) : Prop :=
  (m = r ∧ e' = e) ∨ (r = 2 ^ 24 ∧ m = 2 ^ 23 ∧ e' = e + 1)

theorem IsCarried.bounds {r m : Nat} {e e' : Int} (h : IsCarried r e m e') :
    e ≤ e' ∧ e' ≤ e + 1 := by
  rcases h with ⟨-, rfl⟩ | ⟨-, -, rfl⟩ <;> omega

/-- **Rounding a long mantissa** makes it one of 24 bits. The exponent rises by the number of bits
cut off, and by one more if rounding up needs another bit. -/
theorem roundWithAccuracy_eq (sign : Sign) {m : Nat} {e : Int} (hm : 2 ^ 23 ≤ m) (he : -149 ≤ e)
    (accuracy : Accuracy) :
    ∃ (m' : Nat) (e' : Int) (h : 0 < m'),
      roundWithAccuracy .binary32 sign m e accuracy = .finite sign m' e' h ∧ IsFull m'
        ∧ IsCarried (rounded m accuracy) (e + (m.log2 - 23 : Nat)) m' e' := by
  obtain ⟨hlow, hhigh⟩ := rounded_bounds hm accuracy
  -- rounding up may need one more bit, which is cut off again
  have hagain := shiftToTargetExponent_eq hlow (by omega : -149 ≤ e + (m.log2 - 23 : Nat)) .exact
  obtain ⟨m', hm'⟩ : ∃ m', m' = (ExtendedMantissa.ofMantissaAndAccuracy (rounded m accuracy) .exact
      >>> ((rounded m accuracy).log2 - 23)).mantissa := ⟨_, rfl⟩
  have hvalue : m' = rounded m accuracy / 2 ^ ((rounded m accuracy).log2 - 23) := by
    rw [hm', mantissa_shiftRight, mantissa_ofMantissaAndAccuracy]
  have hfull : IsFull m' := hvalue ▸ isFull_div hlow
  have hpos : 0 < m' := lt_of_lt_of_le (by norm_num) hfull.1
  refine ⟨m', e + (m.log2 - 23 : Nat) + ((rounded m accuracy).log2 - 23 : Nat), hpos, ?_, hfull, ?_⟩
  · rw [roundWithAccuracy, shiftToTargetExponent_eq hm he]
    dsimp only
    rw [← rounded, hagain]
    dsimp only
    rw [dif_neg (hm' ▸ hpos.ne')]
    simp only [hm']
  · rcases Nat.lt_or_ge (rounded m accuracy) (2 ^ 24) with hlt | hge
    · left
      rw [hvalue, log2_of_isFull ⟨hlow, hlt⟩]
      exact ⟨Nat.div_one _, Int.add_zero _⟩
    · right
      obtain hpower : rounded m accuracy = 2 ^ 24 := Nat.le_antisymm hhigh hge
      rw [hvalue, hpower, Nat.log2_two_pow]
      exact ⟨rfl, rfl, rfl⟩

/-! ### Packing -/

theorem unpackSign_packComponents {spec : Format} (sign : Sign)
    (exponent : BitVec spec.exponentBits) (mantissa : BitVec spec.mantissaBitsWithoutImplicit) :
    unpackSign (packComponents spec sign exponent mantissa) = sign.toBitVec := by
  ext i hi
  obtain rfl : i = 0 := by omega
  simp [unpackSign, packComponents, BitVec.getLsbD_append, BitVec.getElem_append]

/-- The bit that is left out of a mantissa of 24 bits is put in front of it again. -/
theorem toNat_implicit_append {m : Nat} (hm : IsFull m) :
    (1#1 ++ BitVec.ofNat 23 m).toNat = m := by
  obtain ⟨hle, hlt⟩ := hm
  rw [BitVec.toNat_append, BitVec.toNat_ofNat, BitVec.toNat_ofNat,
    ← Nat.shiftLeft_add_eq_or_of_lt (Nat.mod_lt _ (by norm_num)), Nat.shiftLeft_eq]
  omega

/-- **A mantissa of 24 bits is packed without loss**, as long as the exponent fits. -/
theorem unpack_pack (sign : Sign) {m : Nat} {e : Int} (h : 0 < m) (hm : IsFull m)
    (hle : -149 ≤ e) (hlt : e ≤ 104) :
    unpack .binary32 (pack .binary32 (.finite sign m e h))
      = .finite sign m e h := by
  have hlog : m.log2 + 1 = Format.binary32.mantissaBits := by
    rw [log2_of_isFull hm]
    rfl
  obtain ⟨b, hb⟩ : ∃ b : Nat,
      b = (e + Format.binary32.exponentBias + Format.binary32.mantissaBitsWithoutImplicit).toNat :=
    ⟨_, rfl⟩
  have hbias : (b : Int) = e + 150 := by
    have : b = (e + 127 + 23).toNat := hb
    omega
  have hfits : ¬2 ^ Format.binary32.exponentBits ≤ b + 1 := by
    have : ¬2 ^ 8 ≤ b + 1 := by omega
    exact this
  have htoNat : (BitVec.ofNat 8 b).toNat = b := by
    rw [BitVec.toNat_ofNat]
    omega
  -- the exponent field is neither that of the numbers near zero nor that of infinity
  have hzero : BitVec.ofNat 8 b ≠ 0#8 := by
    intro hcon
    rw [hcon] at htoNat
    have : (0#8).toNat = 0 := rfl
    omega
  have hones : BitVec.ofNat 8 b ≠ -1#8 := by
    intro hcon
    rw [hcon] at htoNat
    have : (-1#8).toNat = 255 := rfl
    omega
  rw [pack]
  dsimp only
  rw [← hb, if_neg hfits, if_pos hlog, unpack]
  simp only [unpackMantissa_packComponents, unpackExponent_packComponents,
    unpackSign_packComponents]
  rw [if_neg hones, if_neg hzero]
  have hsign : Sign.ofBitVec sign.toBitVec = sign := by cases sign <;> rfl
  have hexponent : ((BitVec.ofNat 8 b).toNat : Int) - (127 + 23) = e := by omega
  simp only [hsign]
  congr 1
  · exact toNat_implicit_append hm

/-- **A rounded number is positive and finite** as long as it is not too large. -/
theorem unpack_pack_round {m : Nat} {e : Int} (hm : 2 ^ 23 ≤ m) (he : -149 ≤ e)
    (hlarge : e + m.log2 ≤ 126) (accuracy : Accuracy) :
    ∃ (m' : Nat) (e' : Int) (h : 0 < m'),
      unpack .binary32
          (pack .binary32 (roundWithAccuracy .binary32 .positive m e accuracy))
        = .finite .positive m' e' h
      ∧ IsFull m' ∧ IsCarried (rounded m accuracy) (e + (m.log2 - 23 : Nat)) m' e' := by
  obtain ⟨m', e', h, hround, hfull, hcarried⟩ := roundWithAccuracy_eq .positive hm he accuracy
  have hlog : 23 ≤ m.log2 := (Nat.le_log2 (by omega)).mpr hm
  obtain ⟨hle, hge⟩ := hcarried.bounds
  refine ⟨m', e', h, ?_, hfull, hcarried⟩
  rw [hround]
  exact unpack_pack .positive h hfull (by omega) (by omega)

/-! ### Counts -/

theorem unpack_one : (Float32.ofBits 0x3F800000).toModel.unpack
    = .finite .positive (2 ^ 23) (-23) (Nat.two_pow_pos 23) :=
  rfl

/-- A short count is made longer before it is rounded. -/
theorem isFull_shiftLeft {n : Nat} (hpos : 0 < n) (hlog : n.log2 ≤ 23) :
    IsFull (n <<< (23 - n.log2)) := by
  have hlow : 2 ^ n.log2 ≤ n := Nat.log2_self_le hpos.ne'
  have hhigh : n < 2 ^ (n.log2 + 1) := Nat.lt_log2_self
  rw [Nat.shiftLeft_eq]
  -- the highest bit moves up to the 24th place
  constructor
  · calc
      2 ^ 23 = 2 ^ n.log2 * 2 ^ (23 - n.log2) := by rw [← Nat.pow_add, Nat.add_sub_cancel' hlog]
      _ ≤ n * 2 ^ (23 - n.log2) := Nat.mul_le_mul_right _ hlow
  · calc
      n * 2 ^ (23 - n.log2) < 2 ^ (n.log2 + 1) * 2 ^ (23 - n.log2) :=
        Nat.mul_lt_mul_of_pos_right hhigh (Nat.two_pow_pos _)
      _ = 2 ^ 24 := by rw [← Nat.pow_add, (by omega : n.log2 + 1 + (23 - n.log2) = 24)]

/-- A count is rounded after it was made long enough. -/
theorem ofNat_eq {n : Nat} (hpos : 0 < n) :
    ofNat .binary32 n
      = roundWithAccuracy .binary32 .positive (n <<< (23 - n.log2))
          (-((23 - n.log2 : Nat) : Int)) .exact := by
  have hcompare : compare (n : Int) 0 = .gt := compare_gt_iff_gt.mpr (by omega)
  have hshift : (0 - Format.binary32.targetExponent (totalExponent n 0)).toNat
      = 23 - n.log2 := by
    rw [targetExponent_eq, totalExponent]
    omega
  rw [ofNat, ofInt, UnpackedFloat.normalize, hcompare]
  dsimp only
  rw [Int.toNat_natCast, UnpackedFloat.round, decreaseExponent, hshift, Int.zero_sub]

/-- A mantissa of 24 bits is left as it is by rounding. -/
theorem unpack_pack_round_mul_two_pow {m : Nat} (hm : IsFull m) (h : 0 < m) (k : Nat) {e : Int}
    (he : -149 ≤ e) (hlarge : e + k ≤ 103) :
    unpack .binary32
        (pack .binary32 (roundWithAccuracy .binary32 .positive (m * 2 ^ k) e .exact))
      = .finite .positive m (e + k) h := by
  have hlog : (m * 2 ^ k).log2 = 23 + k := by
    rw [log2_mul_two_pow h.ne', log2_of_isFull hm]
  have hlong : 2 ^ 23 ≤ m * 2 ^ k := hm.1.trans (Nat.le_mul_of_pos_right m (Nat.two_pow_pos k))
  obtain ⟨m', e', h', hround, -, hcarried⟩ := unpack_pack_round hlong he (by omega) .exact
  rw [hround]
  rw [rounded_mul_two_pow hm, hlog, Nat.add_sub_cancel_left] at hcarried
  rcases hcarried with ⟨rfl, rfl⟩ | ⟨hpower, -, -⟩
  · rfl
  · exact absurd hpower hm.2.ne

/-- **A short word is converted without loss.** -/
theorem unpack_toFloat32_word {n : UInt64} (hpos : 0 < n.toNat) (hlog : n.toNat.log2 ≤ 23) :
    ∃ h, n.toFloat32.toModel.unpack
      = .finite .positive (n.toNat <<< (23 - n.toNat.log2)) (-((23 - n.toNat.log2 : Nat) : Int))
          h := by
  have hfull := isFull_shiftLeft hpos hlog
  have h : 0 < n.toNat <<< (23 - n.toNat.log2) := lt_of_lt_of_le (by norm_num) hfull.1
  have hround := unpack_pack_round_mul_two_pow hfull h 0
    (by omega : -149 ≤ -((23 - n.toNat.log2 : Nat) : Int)) (by omega)
  refine ⟨h, ?_⟩
  rw [Nat.pow_zero, Nat.mul_one, ← ofNat_eq hpos, Nat.cast_zero, Int.add_zero] at hround
  exact hround

/-- A long count is rounded as it is, without a power of ten. -/
theorem ofScientific_eq {n : Nat} (hpos : 0 < n) :
    ofScientific .binary32 n 0
      = roundWithAccuracy .binary32 .positive (n * 2 ^ 24) (-24) .exact := by
  have hbits : (2 : Int) ^ Format.binary32.exponentBits = 256 := rfl
  rw [ofScientific, dif_neg hpos.ne', if_neg (by omega), if_neg (by omega), if_pos le_rfl]
  have hmantissa : n <<< 24 * 10 ^ 0 = n * 2 ^ 24 := by
    rw [Nat.shiftLeft_eq, Nat.pow_zero, Nat.mul_one]
  rw [← hmantissa]
  rfl

/-- **A count is rounded to 24 bits** if it is not zero and fits in 64 bits. -/
theorem unpack_toFloat32 {n : Nat} (hpos : 0 < n) (hlt : n < 2 ^ 64) :
    ∃ (m : Nat) (e : Int) (h : 0 < m),
      n.toFloat32.toModel.unpack = .finite .positive m e h ∧ IsFull m
        ∧ IsCarried (rounded (n * 2 ^ 24) .exact) ((n.log2 : Int) - 23) m e := by
  have hvalue : n.toFloat32 = Float32.ofScientific n false 0 := rfl
  rw [hvalue, Float32.ofScientific]
  split
  · next hsmall =>
    -- a short count is converted as a word, and multiplied by one
    have htoNat : n.toUInt64.toNat = n := by
      rw [Nat.toUInt64_eq, UInt64.toNat_ofNat', Nat.mod_eq_of_lt hlt]
    have hlog : n.log2 < 23 := (Nat.log2_lt hpos.ne').mpr hsmall.1
    have hfull := isFull_shiftLeft hpos hlog.le
    obtain ⟨h, hword⟩ := unpack_toFloat32_word (htoNat.symm ▸ hpos) (htoNat.symm ▸ hlog.le)
    simp only [htoNat] at hword h
    have hproduct : (n.toUInt64.toFloat32 * Float32.ofBits 0x3F800000).toModel.unpack
        = unpack .binary32 (pack .binary32 (mul .binary32 n.toUInt64.toFloat32.toModel.unpack
            (Float32.ofBits 0x3F800000).toModel.unpack)) := rfl
    rw [hword, unpack_one] at hproduct
    have hround := unpack_pack_round_mul_two_pow hfull h 23
      (by omega : -149 ≤ -((23 - n.log2 : Nat) : Int) + -23) (by omega)
    refine ⟨_, _, h, hproduct.trans hround, hfull, Or.inl ⟨?_, by omega⟩⟩
    have hmantissa : n * 2 ^ 24 = n <<< (23 - n.log2) * 2 ^ (n.log2 + 1) := by
      rw [Nat.shiftLeft_eq, Nat.mul_assoc, ← Nat.pow_add,
        (by omega : 23 - n.log2 + (n.log2 + 1) = 24)]
    rw [hmantissa, rounded_mul_two_pow hfull]
  · next hlarge =>
    -- a long count is a decimal number without digits behind the point
    have hlong : 2 ^ 23 ≤ n * 2 ^ 24 := by omega
    have hlog : (n * 2 ^ 24).log2 = n.log2 + 24 := log2_mul_two_pow hpos.ne' 24
    have hlog' : n.log2 < 64 := (Nat.log2_lt hpos.ne').mpr hlt
    obtain ⟨m, e, h, hround, hfull, hcarried⟩ :=
      unpack_pack_round hlong (by omega : (-149 : Int) ≤ -24) (by omega) .exact
    rw [hlog, (by omega : (-24 : Int) + (n.log2 + 24 - 23 : Nat) = n.log2 - 23)] at hcarried
    refine ⟨m, e, h, ?_, hfull, hcarried⟩
    rw [← hround, ← ofScientific_eq hpos]
    rfl

/-- **A count is a moderate number** if it is not zero and fits in 64 bits. -/
theorem isModerate_toFloat32 {n : Nat} (hpos : 0 < n) (hlt : n < 2 ^ 64) :
    IsModerate n.toFloat32 := by
  obtain ⟨m, e, h, hunpack, hfull, hcarried⟩ := unpack_toFloat32 hpos hlt
  have hlog : n.log2 < 64 := (Nat.log2_lt hpos.ne').mpr hlt
  obtain ⟨hle, hge⟩ := hcarried.bounds
  exact ⟨m, e, h, hunpack, hfull, by omega, by omega⟩

/-! ### Quotients -/

/-- **Zero divided by a moderate number is zero.** -/
theorem zero_div {x : Float32} (hx : IsModerate x) : 0 / x = 0 := by
  obtain ⟨m, e, h, hx, -⟩ := hx
  have hdiv : (0 / x : Float32)
      = ⟨Float32.Model.pack (div .binary32 (0 : Float32).toModel.unpack x.toModel.unpack)⟩ := rfl
  rw [hdiv, hx]
  rfl

section Division

variable {m m' : Nat} {e e' : Int} {h : 0 < m} {h' : 0 < m'}

/-- Mantissas of 24 bits are divided to 24 bits at least. -/
theorem div_eq_round (hm : IsFull m) (hm' : IsFull m') (hlow : -100 ≤ e - e') :
    div .binary32 (.finite .positive m e h) (.finite .positive m' e' h')
      = roundWithAccuracy .binary32 .positive (m * 2 ^ 24 / m') (e - e' - 24)
          (accuracyOfFraction (m * 2 ^ 24 % m') m') := by
  have hlog : m.log2 = m'.log2 := by
    rw [log2_of_isFull hm, log2_of_isFull hm']
  have htarget : min (e - e')
      (Format.binary32.targetExponent (totalExponent m e - totalExponent m' e'))
      = e - e' - 24 := by
    rw [targetExponent_eq, totalExponent, totalExponent, hlog]
    omega
  have hshift : (e - e' - (e - e' - 24)).toNat = 24 := by omega
  have hcore : divCore .binary32 m e m' e'
      = (m * 2 ^ 24 / m', e - e' - 24, accuracyOfFraction (m * 2 ^ 24 % m') m') := by
    rw [divCore, htarget, hshift, Nat.shiftLeft_eq]
  rw [UnpackedFloat.div, hcore]
  rfl

theorem quotient_bounds (h' : 0 < m') (hm : IsFull m) (hm' : IsFull m') :
    2 ^ 23 ≤ m * 2 ^ 24 / m' ∧ m * 2 ^ 24 / m' < 2 ^ 25 :=
  ⟨(Nat.le_div_iff_mul_le h').mpr (by have := hm.1; have := hm'.2; omega),
    (Nat.div_lt_iff_lt_mul h').mpr (by have := hm.2; have := hm'.1; omega)⟩

/-- **A quotient of moderate numbers is rounded to 24 bits.** -/
theorem unpack_div {x y : Float32} (hx : x.toModel.unpack = .finite .positive m e h)
    (hy : y.toModel.unpack = .finite .positive m' e' h') (hm : IsFull m) (hm' : IsFull m')
    (hlow : -100 ≤ e - e') (hhigh : e - e' ≤ 100) :
    ∃ (q : Nat) (k : Int) (hq : 0 < q),
      (x / y).toModel.unpack = .finite .positive q k hq ∧ IsFull q
        ∧ IsCarried
            (rounded (m * 2 ^ 24 / m') (accuracyOfFraction (m * 2 ^ 24 % m') m'))
            (e - e' - 24 + ((m * 2 ^ 24 / m').log2 - 23 : Nat)) q k := by
  obtain ⟨hqlow, hqhigh⟩ := quotient_bounds h' hm hm'
  have hlog : (m * 2 ^ 24 / m').log2 < 25 := (Nat.log2_lt (by omega)).mpr hqhigh
  obtain ⟨q, k, hq, hround, hfull, hcarried⟩ := unpack_pack_round hqlow
    (by omega : -149 ≤ e - e' - 24) (by omega) (accuracyOfFraction (m * 2 ^ 24 % m') m')
  have hquotient : (x / y).toModel.unpack
      = unpack .binary32 (pack .binary32
          (div .binary32 x.toModel.unpack y.toModel.unpack)) := rfl
  rw [hx, hy, div_eq_round hm hm' hlow, hround] at hquotient
  exact ⟨q, k, hq, hquotient, hfull, hcarried⟩

end Division

/-- **A moderate number divided by itself is one.** -/
theorem div_self {x : Float32} (hx : IsModerate x) : x / x = 1 := by
  obtain ⟨m, e, h, hx, hm, -⟩ := hx
  have hdiv : (x / x : Float32)
      = ⟨Float32.Model.pack (div .binary32 x.toModel.unpack x.toModel.unpack)⟩ := rfl
  -- the quotient of the mantissas is a power of two, with nothing left over
  rw [hdiv, hx, div_eq_round hm hm (by omega), Nat.mul_div_cancel_left _ h, Nat.mul_mod_right,
    Int.sub_self]
  rfl

/-- **No quotient of moderate numbers is zero.** -/
theorem div_ne_zero {x y : Float32} (hx : IsModerate x) (hy : IsModerate y) : x / y ≠ 0 := by
  obtain ⟨m, e, h, hx, hm, hle, hge⟩ := hx
  obtain ⟨m', e', h', hy, hm', hle', hge'⟩ := hy
  obtain ⟨q, k, hq, hquotient, -⟩ := unpack_div hx hy hm hm' (by omega) (by omega)
  have hunpack : (0 : Float32).toModel.unpack = .zero .positive := rfl
  intro hzero
  rw [hzero, hunpack] at hquotient
  exact UnpackedFloat.noConfusion hquotient

/-! ### Sums and differences -/

/-- **Numbers are added in either order**, those that are none and those without end included. -/
theorem unpacked_add_comm (x y : UnpackedFloat) : add .binary32 x y = add .binary32 y x := by
  cases x with
  | notANumber => cases y <;> rfl
  | infinity s =>
    cases y with
    | infinity s' => cases s <;> cases s' <;> rfl
    | _ => rfl
  | zero s =>
    cases y with
    | zero s' => cases s <;> cases s' <;> rfl
    | _ => rfl
  | finite s m e h =>
    cases y with
    | finite s' m' e' h' => simp only [add, min_comm e e', Int.add_comm]
    | _ => rfl

/-- **The sum of two numbers of single precision does not depend on their order.** -/
theorem add_comm (x y : Float32) : x + y = y + x := by
  have hadd (x y : Float32) : x + y
      = ⟨Float32.Model.pack (add .binary32 x.toModel.unpack y.toModel.unpack)⟩ := rfl
  rw [hadd, hadd, unpacked_add_comm]

/-- **Nothing is lost when zero is taken off** a moderate number. -/
theorem sub_zero_div_self {x : Float32} (hx : IsModerate x) : (x - 0) / x = 1 := by
  obtain ⟨m, e, h, hunpack, hm, hle, hge⟩ := id hx
  have hsub : (x - 0).toModel.unpack
      = unpack .binary32 (pack .binary32 (sub .binary32 x.toModel.unpack
          (0 : Float32).toModel.unpack)) := rfl
  have hzero : (0 : Float32).toModel.unpack = .zero .positive := rfl
  have hsame : (x - 0).toModel.unpack = x.toModel.unpack := by
    rw [hsub, hunpack, hzero]
    exact unpack_pack .positive h hm (by omega) (by omega)
  have hdiv (y : Float32) : y / x
      = ⟨Float32.Model.pack (div .binary32 y.toModel.unpack x.toModel.unpack)⟩ := rfl
  rw [← div_self hx, hdiv, hdiv, hsame]

end Single

end CrashTriage
