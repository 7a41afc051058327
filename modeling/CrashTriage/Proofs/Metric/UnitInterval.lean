import CrashTriage.Metric.Basic
import CrashTriage.Proofs.Metric.EditCount
import CrashTriage.Proofs.Metric.MatchCounts

/-!
# Every metric lies between zero and one

Each metric is one formula over the counts of two sequences. Written down for numbers of any sort
(`Metric.compareBy`), it gives the result of the metric when it is evaluated in single precision
(`Metric.compare_eq_compareBy`); evaluated exactly (`Metric.exact`), it tells whether the formula
itself is sound. It is: **it never divides by zero, and it comes to a number between zero and one**
(`Metric.isUnitValued`), whatever the test for frames being the same is.

For the edits this is the bound on their number. The other two are cut off at one end – Jaccard at
zero, where frames that are the same as several others make the intersection too large, and
Jaro–Winkler at one, where frames match that are already taken – and need a bound only at the
other.
-/

namespace CrashTriage

/-! ### The formulas -/

section Formulas

variable {ρ : Type} [Add ρ] [Sub ρ] [Mul ρ] [Div ρ] [LT ρ] [DecidableLT ρ]
  (ofNat : Nat → ρ) (fifth : ρ) {α : Type} (same : α → α → Bool)

/-- The number of edits in relation to the longer sequence, as a number of any sort. -/
def Edit.distanceBy (swaps : Bool) (a b : List α) : ρ :=
  let longest := max a.length b.length
  if longest = 0 then ofNat 0
  else ofNat (count same swaps a b) / ofNat longest

/-- One minus the share of common frames, cut off at zero, as a number of any sort. -/
def Jaccard.distanceBy (a b : List α) : ρ :=
  if union same a b = 0 then ofNat 0
  else
    let d := ofNat 1 - ofNat (common same a b) / ofNat (union same a b)
    if d < ofNat 0 then ofNat 0 else d

/-- The score of the matches, cut off at one, as a number of any sort. -/
def JaroWinkler.similarityBy (a b : List α) : ρ :=
  let c := counts same a b
  if a.isEmpty && b.isEmpty then ofNat 1
  else if c.matched = 0 then ofNat 0
  else
    let s := c.score ofNat fifth
    if ofNat 1 < s then ofNat 1 else s

namespace Metric

/-- The formula of a metric, as a number of any sort. -/
def compareBy (a b : List α) : Metric → ρ
  | edits => Edit.distanceBy ofNat same false a b
  | editsAndSwaps => Edit.distanceBy ofNat same true a b
  | jaccard => Jaccard.distanceBy ofNat same a b
  | jaroWinkler => JaroWinkler.similarityBy ofNat fifth same a b

/-- The exact value of a metric. -/
def exact (a b : List α) (m : Metric) : Exact :=
  m.compareBy Exact.ofNat (.number (1 / 5)) same a b

/-- **A metric is its formula**, evaluated in single precision. -/
theorem compare_eq_compareBy (a b : List α) (m : Metric) :
    m.compare same a b = m.compareBy Nat.toFloat32 0.2 same a b := by
  cases m <;> rfl

end Metric

end Formulas

/-! ### Cutting off -/

namespace Exact

/-- **The value is a number between zero and one.** -/
def InUnitInterval (x : Exact) : Prop :=
  ∃ q : ℚ, x = number q ∧ 0 ≤ q ∧ q ≤ 1

theorem ofNat_zero : ofNat 0 = number 0 :=
  congrArg number Nat.cast_zero

theorem ofNat_one : ofNat 1 = number 1 :=
  congrArg number Nat.cast_one

theorem inUnitInterval_zero : (ofNat 0).InUnitInterval :=
  ⟨0, ofNat_zero, le_rfl, zero_le_one⟩

theorem inUnitInterval_one : (ofNat 1).InUnitInterval :=
  ⟨1, ofNat_one, zero_le_one, le_rfl⟩

/-- A number that is cut off at zero. -/
theorem max_ofNat_zero (p : ℚ) :
    (if number p < ofNat 0 then ofNat 0 else number p) = number (max 0 p) := by
  rw [ofNat_zero]
  rcases lt_or_ge p 0 with hp | hp
  · rw [if_pos (number_lt.mpr hp), max_eq_left hp.le]
  · rw [if_neg (mt number_lt.mp hp.not_gt), max_eq_right hp]

/-- A number that is cut off at one. -/
theorem min_ofNat_one (p : ℚ) :
    (if ofNat 1 < number p then ofNat 1 else number p) = number (min 1 p) := by
  rw [ofNat_one]
  rcases lt_or_ge 1 p with hp | hp
  · rw [if_pos (number_lt.mpr hp), min_eq_left hp.le]
  · rw [if_neg (mt number_lt.mp hp.not_gt), min_eq_right hp]

end Exact

/-! ### The exact values -/

section Values

variable {α : Type} {same : α → α → Bool} {a b : List α}

namespace Edit

/-- Where there is a frame, the edits are divided by a length other than zero. -/
theorem distanceBy_exact (swaps : Bool) (hlongest : max a.length b.length ≠ 0) :
    distanceBy Exact.ofNat same swaps a b
      = .number ((count same swaps a b : ℚ) / (max a.length b.length : ℕ)) := by
  rw [distanceBy, if_neg hlongest]
  exact Exact.number_div (Nat.cast_ne_zero.mpr hlongest)

theorem distanceBy_inUnitInterval (same : α → α → Bool) (swaps : Bool) (a b : List α) :
    (distanceBy Exact.ofNat same swaps a b).InUnitInterval := by
  rcases eq_or_ne (max a.length b.length) 0 with hlongest | hlongest
  · rw [distanceBy, if_pos hlongest]
    exact Exact.inUnitInterval_zero
  · have hpos : (0 : ℚ) < (max a.length b.length : ℕ) :=
      Nat.cast_pos.mpr (Nat.pos_of_ne_zero hlongest)
    have hle : (count same swaps a b : ℚ) ≤ (max a.length b.length : ℕ) :=
      Nat.cast_le.mpr (count_le_max a b)
    exact ⟨_, distanceBy_exact swaps hlongest, div_nonneg (Nat.cast_nonneg _) hpos.le,
      (div_le_one hpos).mpr hle⟩

end Edit

namespace Jaccard

/-- Where the union is not empty, its size is divided by, and what is left is cut off at zero. -/
theorem distanceBy_exact (hunion : union same a b ≠ 0) :
    distanceBy Exact.ofNat same a b
      = .number (max 0 (1 - (common same a b : ℚ) / union same a b)) := by
  have hquotient : Exact.ofNat (common same a b) / Exact.ofNat (union same a b)
      = .number ((common same a b : ℚ) / union same a b) :=
    Exact.number_div (Nat.cast_ne_zero.mpr hunion)
  rw [distanceBy, if_neg hunion, hquotient, Exact.ofNat_one]
  exact Exact.max_ofNat_zero _

theorem distanceBy_inUnitInterval (same : α → α → Bool) (a b : List α) :
    (distanceBy Exact.ofNat same a b).InUnitInterval := by
  rcases eq_or_ne (union same a b) 0 with hunion | hunion
  · rw [distanceBy, if_pos hunion]
    exact Exact.inUnitInterval_zero
  · -- the share may exceed one, but it is not negative
    have hshare : (0 : ℚ) ≤ (common same a b : ℚ) / union same a b := by positivity
    exact ⟨_, distanceBy_exact hunion, le_max_left _ _,
      max_le zero_le_one (sub_le_self 1 hshare)⟩

end Jaccard

namespace JaroWinkler

theorem similarityBy_nil (same : α → α → Bool) :
    similarityBy Exact.ofNat (.number (1 / 5)) same [] [] = .number 1 :=
  Exact.ofNat_one

/-- Where nothing matches, nothing is similar, unless there is no frame at all. -/
theorem similarityBy_eq_zero (hframes : ¬(a = [] ∧ b = []))
    (hmatched : (counts same a b).matched = 0) :
    similarityBy Exact.ofNat (.number (1 / 5)) same a b = .number 0 := by
  have hempty : ¬(a.isEmpty && b.isEmpty) = true := by
    rwa [Bool.and_eq_true, List.isEmpty_iff, List.isEmpty_iff]
  rw [similarityBy, if_neg hempty, if_pos hmatched]
  exact Exact.ofNat_zero

/-- Where a frame matches, the score is cut off at one. -/
theorem similarityBy_exact (hmatched : 0 < (counts same a b).matched) :
    similarityBy Exact.ofNat (.number (1 / 5)) same a b
      = .number (min 1 ((counts same a b).score Nat.cast (1 / 5))) := by
  have hbounds := counts_areBounded same a b
  have hempty : ¬(a.isEmpty && b.isEmpty) = true := by
    rw [Bool.and_eq_true, List.isEmpty_iff]
    rintro ⟨rfl, -⟩
    exact absurd (hbounds.left_pos hmatched) (Nat.lt_irrefl 0)
  rw [similarityBy, if_neg hempty, if_neg hmatched.ne', hbounds.score_exact hmatched]
  exact Exact.min_ofNat_one _

theorem similarityBy_inUnitInterval (same : α → α → Bool) (a b : List α) :
    (similarityBy Exact.ofNat (.number (1 / 5)) same a b).InUnitInterval := by
  rcases Nat.eq_zero_or_pos (counts same a b).matched with hmatched | hmatched
  · by_cases hframes : a = [] ∧ b = []
    · obtain ⟨rfl, rfl⟩ := hframes
      exact Exact.inUnitInterval_one
    · exact ⟨0, similarityBy_eq_zero hframes hmatched, le_rfl, zero_le_one⟩
  · have hscore := (counts_areBounded same a b).score_pos hmatched
    exact ⟨_, similarityBy_exact hmatched, le_min zero_le_one hscore.le, min_le_left _ _⟩

end JaroWinkler

namespace Metric

/-- **The metrics of two sequences are sound**: between zero and one, and free of divisions by
zero. -/
structure IsUnitValued (same : α → α → Bool) (a b : List α) : Prop where
  /-- Each result is that of its formula in single precision. -/
  compare_eq (m : Metric) : m.compare same a b = m.compareBy Nat.toFloat32 0.2 same a b
  /-- Exactly, each formula comes to a number between zero and one. -/
  exact_mem (m : Metric) : (m.exact same a b).InUnitInterval
  /-- There are at most as many edits as the longer sequence has frames. -/
  count_le (swaps : Bool) : Edit.count same swaps a b ≤ max a.length b.length
  /-- The matches are within their bounds. -/
  counts : (JaroWinkler.counts same a b).AreBounded
  /-- Two empty sequences are as similar as can be. -/
  similarity_of_empty : a = [] ∧ b = [] → jaroWinkler.exact same a b = .number 1
  /-- Where a frame matches, the score is positive, and cut off at one. -/
  similarity_of_matched : 0 < (JaroWinkler.counts same a b).matched →
    (0 : ℚ) < (JaroWinkler.counts same a b).score Nat.cast (1 / 5)
      ∧ jaroWinkler.exact same a b
        = .number (min 1 ((JaroWinkler.counts same a b).score Nat.cast (1 / 5)))
  /-- In all other cases nothing is similar. -/
  similarity_otherwise : ¬(a = [] ∧ b = []) → (JaroWinkler.counts same a b).matched = 0 →
    jaroWinkler.exact same a b = .number 0

/-- **Every metric is between zero and one, and no zero is divided by**, for any two sequences and
any test. -/
theorem isUnitValued (same : α → α → Bool) (a b : List α) : IsUnitValued same a b where
  compare_eq := compare_eq_compareBy same a b
  exact_mem m := by
    cases m with
    | edits => exact Edit.distanceBy_inUnitInterval same false a b
    | editsAndSwaps => exact Edit.distanceBy_inUnitInterval same true a b
    | jaccard => exact Jaccard.distanceBy_inUnitInterval same a b
    | jaroWinkler => exact JaroWinkler.similarityBy_inUnitInterval same a b
  count_le _ := Edit.count_le_max a b
  counts := JaroWinkler.counts_areBounded same a b
  similarity_of_empty := by
    rintro ⟨rfl, rfl⟩
    exact JaroWinkler.similarityBy_nil same
  similarity_of_matched hmatched :=
    ⟨(JaroWinkler.counts_areBounded same a b).score_pos hmatched,
      JaroWinkler.similarityBy_exact hmatched⟩
  similarity_otherwise := JaroWinkler.similarityBy_eq_zero

/-- Six frames of one name against three: five of them match, which is more than there are to match,
and what the score has in excess of one is cut off. -/
theorem isUnitValued_overmatched :
    let a := List.replicate 6 'x'
    let b := List.replicate 3 'x'
    (JaroWinkler.counts (· == ·) a b).matched = 5
      ∧ (JaroWinkler.counts (· == ·) a b).base Nat.cast = (31 / 30 : ℚ)
      ∧ jaroWinkler.exact (· == ·) a b = .number 1 := by
  intro a b
  have hcounts : JaroWinkler.counts (· == ·) a b = ⟨6, 3, 5, 4, 3⟩ := by decide
  have hmatched : 0 < (JaroWinkler.counts (· == ·) a b).matched := by
    rw [hcounts]
    decide
  obtain ⟨-, hexact⟩ := (isUnitValued (· == ·) a b).similarity_of_matched hmatched
  refine ⟨by rw [hcounts], ?_, ?_⟩
  · rw [hcounts, JaroWinkler.Counts.base]
    norm_num
  · rw [hexact, hcounts, JaroWinkler.Counts.score, JaroWinkler.Counts.base]
    norm_num

end Metric

end Values

end CrashTriage
