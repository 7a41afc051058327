import CrashTriage.Metric.JaroWinkler
import CrashTriage.Proofs.Number.Exact
import Mathlib.Tactic.Linarith
import Mathlib.Tactic.Positivity
import Mathlib.Tactic.Ring

/-!
# Bounds of the matches and of their score

No frame matches twice, only matched frames are displaced, and a common beginning is not longer
than either sequence (`JaroWinkler.counts_areBounded`). So wherever a frame matches, the score
divides by no zero (`JaroWinkler.Counts.AreBounded.score_exact`), and **it is positive**
(`JaroWinkler.Counts.AreBounded.score_pos`): at most four fifths of what is missing to one are
added to a positive number, or – where repeated frames push it past one – taken off it.

What is missing to one is the mean of what three shares miss, less a fifth for each frame of the
common beginning. So as long as no frame of the second sequence matches twice, **the score is one at
most, and only if all frames match in place** (`JaroWinkler.Counts.AreBounded.score_eq_one_iff`).
-/

namespace CrashTriage

namespace JaroWinkler

/-! ### Counts -/

/-- **The counts of two sequences are within their bounds.** -/
structure Counts.AreBounded (c : Counts) : Prop where
  /-- No frame matches twice. -/
  matched_le : c.matched ≤ c.left
  /-- Only matched frames are displaced. -/
  displaced_le : c.displaced ≤ c.matched
  /-- The common beginning lies in both sequences, and is cut off at four frames. -/
  shared_le : c.shared ≤ min 4 (min c.left c.right)
  /-- It takes a frame of the second sequence to match. -/
  right_pos : 0 < c.matched → 0 < c.right

section Sequences

variable {α : Type} (same : α → α → Bool)

theorem length_pairs_le (a b : List α) : (pairs same a b).length ≤ a.length :=
  (List.length_filterMap_le _ _).trans_eq List.length_zipIdx

/-- Nothing matches an empty sequence. -/
theorem pairs_nil_right (a : List α) : pairs same a [] = [] := by
  rw [pairs, List.filterMap_eq_nil_iff]
  intro p _
  rfl

theorem commonBeginning_le_min (a b : List α) :
    commonBeginning same a b ≤ min a.length b.length := by
  induction a generalizing b with
  | nil => exact Nat.zero_le _
  | cons x xs ih =>
    cases b with
    | nil => exact Nat.zero_le _
    | cons y ys =>
      have hrest := ih ys
      rw [commonBeginning, List.length_cons, List.length_cons]
      split <;> omega

/-- **The counts of any two sequences are within their bounds**, whatever the test is. -/
theorem counts_areBounded (a b : List α) : (counts same a b).AreBounded where
  matched_le := length_pairs_le same a b
  displaced_le := List.countP_le_length
  shared_le := by
    have hle := commonBeginning_le_min same a b
    show min (commonBeginning same a b) 4 ≤ min 4 (min a.length b.length)
    omega
  right_pos h := by
    cases b with
    | nil =>
      have hmatched : (counts same a []).matched = 0 := by
        rw [counts, pairs_nil_right]
        rfl
      exact absurd hmatched (Nat.ne_of_gt h)
    | cons y ys => exact Nat.succ_pos ys.length

end Sequences

/-! ### The score -/

namespace Counts.AreBounded

variable {c : Counts}

theorem left_pos (h : c.AreBounded) (hmatched : 0 < c.matched) : 0 < c.left :=
  hmatched.trans_le h.matched_le

/-- **The score divides by no zero** where something matches. -/
theorem score_exact (h : c.AreBounded) (hmatched : 0 < c.matched) :
    c.score Exact.ofNat (.number (1 / 5)) = .number (c.score Nat.cast (1 / 5)) := by
  have hm : (c.matched : ℚ) ≠ 0 := Nat.cast_ne_zero.mpr hmatched.ne'
  have hleft : (c.left : ℚ) ≠ 0 := Nat.cast_ne_zero.mpr (h.left_pos hmatched).ne'
  have hright : (c.right : ℚ) ≠ 0 := Nat.cast_ne_zero.mpr (h.right_pos hmatched).ne'
  have htwo : ((2 : ℕ) : ℚ) ≠ 0 := by norm_num
  have hthree : ((3 : ℕ) : ℚ) ≠ 0 := by norm_num
  have hbase : c.base Exact.ofNat = .number (c.base Nat.cast) := by
    simp only [base, Exact.ofNat, Exact.number_add, Exact.number_sub, Exact.number_div hm,
      Exact.number_div hleft, Exact.number_div hright, Exact.number_div htwo,
      Exact.number_div hthree]
  simp only [score, hbase, Exact.ofNat, Exact.number_add, Exact.number_sub, Exact.number_mul]

/-- Before the boost the score is positive: at most half of the matches are taken off. -/
theorem base_pos (h : c.AreBounded) (hmatched : 0 < c.matched) :
    (0 : ℚ) < c.base Nat.cast := by
  have hm : (0 : ℚ) < c.matched := Nat.cast_pos.mpr hmatched
  have hleft : (0 : ℚ) < c.left := Nat.cast_pos.mpr (h.left_pos hmatched)
  have hdisplaced : (c.displaced : ℚ) ≤ c.matched := Nat.cast_le.mpr h.displaced_le
  have hplaced : (0 : ℚ) < (c.matched - c.displaced / (2 : ℕ)) / c.matched := by
    refine div_pos ?_ hm
    push_cast
    linarith
  rw [base]
  positivity

/-- At most four fifths of what is missing to one are added. -/
theorem one_sub_shared_pos (h : c.AreBounded) : (0 : ℚ) < 1 - c.shared / 5 := by
  have hshared : (c.shared : ℚ) ≤ 4 := by
    have hle : c.shared ≤ 4 := h.shared_le.trans (Nat.min_le_left _ _)
    exact_mod_cast hle
  linarith

/-- **The score is positive** where something matches. -/
theorem score_pos (h : c.AreBounded) (hmatched : 0 < c.matched) :
    (0 : ℚ) < c.score Nat.cast (1 / 5) := by
  have hbase := h.base_pos hmatched
  have hrest := h.one_sub_shared_pos
  -- at least a fifth of the score before the boost remains
  have hscore : c.score Nat.cast (1 / 5)
      = c.base Nat.cast * (1 - c.shared / 5) + (c.shared / 5 : ℚ) := by
    rw [score, Nat.cast_one]
    ring
  rw [hscore]
  positivity

end Counts.AreBounded

/-! ### What is missing to one -/

/-- Before the boost, what is missing to one is what the three shares miss on average. -/
theorem Counts.one_sub_base {c : Counts} (hmatched : 0 < c.matched) :
    1 - c.base Nat.cast
      = ((1 - c.matched / c.left) + (1 - c.matched / c.right) + c.displaced / (2 * c.matched) : ℚ)
        / 3 := by
  have hm : (c.matched : ℚ) ≠ 0 := Nat.cast_ne_zero.mpr hmatched.ne'
  have hplaced : ((c.matched : ℚ) - c.displaced / 2) / c.matched
      = 1 - c.displaced / (2 * c.matched) := by
    rw [sub_div, div_self hm, div_div]
  simp only [base, Nat.cast_ofNat, hplaced]
  ring

/-- **Each frame of the common beginning takes off a fifth of what is missing to one.** -/
theorem Counts.one_sub_score (c : Counts) :
    1 - c.score Nat.cast (1 / 5) = (1 - c.shared / 5 : ℚ) * (1 - c.base Nat.cast) := by
  rw [score, Nat.cast_one]
  ring

namespace Counts.AreBounded

variable {c : Counts}

/-- The three shares: none of them is above one if no frame of the second sequence matches
twice. -/
theorem shares_nonneg (h : c.AreBounded) (hright : c.matched ≤ c.right) (hmatched : 0 < c.matched) :
    (0 : ℚ) ≤ 1 - c.matched / c.left ∧ (0 : ℚ) ≤ 1 - c.matched / c.right
      ∧ (0 : ℚ) ≤ c.displaced / (2 * c.matched) := by
  refine ⟨sub_nonneg.mpr (div_le_one_of_le₀ ?_ (Nat.cast_nonneg _)),
    sub_nonneg.mpr (div_le_one_of_le₀ ?_ (Nat.cast_nonneg _)), by positivity⟩
  · exact_mod_cast h.matched_le
  · exact_mod_cast hright

/-- **The score is one at most** if no frame of the second sequence matches twice. -/
theorem score_le_one (h : c.AreBounded) (hright : c.matched ≤ c.right)
    (hmatched : 0 < c.matched) : c.score Nat.cast (1 / 5) ≤ (1 : ℚ) := by
  obtain ⟨hleft, hright, hplaced⟩ := h.shares_nonneg hright hmatched
  have hmissing : (0 : ℚ) ≤ 1 - c.score Nat.cast (1 / 5) := by
    rw [one_sub_score, one_sub_base hmatched]
    exact mul_nonneg h.one_sub_shared_pos.le (by positivity)
  exact sub_nonneg.mp hmissing

/-- **The score is one if nothing is missing**: all frames of either sequence match in place. -/
theorem score_eq_one_iff (h : c.AreBounded) (hright : c.matched ≤ c.right)
    (hmatched : 0 < c.matched) :
    c.score Nat.cast (1 / 5) = (1 : ℚ)
      ↔ c.matched = c.left ∧ c.matched = c.right ∧ c.displaced = 0 := by
  obtain ⟨hnonneg, hnonneg', hplaced⟩ := h.shares_nonneg hright hmatched
  have hm : (c.matched : ℚ) ≠ 0 := Nat.cast_ne_zero.mpr hmatched.ne'
  have hl : (c.left : ℚ) ≠ 0 := Nat.cast_ne_zero.mpr (h.left_pos hmatched).ne'
  have hr : (c.right : ℚ) ≠ 0 := Nat.cast_ne_zero.mpr (h.right_pos hmatched).ne'
  -- a sum of three numbers that are not negative is zero if each of them is
  rw [eq_comm, ← sub_eq_zero, one_sub_score, one_sub_base hmatched,
    mul_eq_zero_iff_left h.one_sub_shared_pos.ne', div_eq_zero_iff, or_iff_left three_ne_zero,
    add_eq_zero_iff_of_nonneg (add_nonneg hnonneg hnonneg') hplaced,
    add_eq_zero_iff_of_nonneg hnonneg hnonneg', and_assoc]
  refine and_congr ?_ (and_congr ?_ ?_)
  · rw [sub_eq_zero, eq_comm, div_eq_one_iff_eq hl, Nat.cast_inj]
  · rw [sub_eq_zero, eq_comm, div_eq_one_iff_eq hr, Nat.cast_inj]
  · rw [div_eq_zero_iff, or_iff_left (mul_ne_zero two_ne_zero hm), Nat.cast_eq_zero]

end Counts.AreBounded

end JaroWinkler

end CrashTriage
