import CrashTriage.Proofs.Frame.Tolerance
import CrashTriage.Proofs.Metric.EditCount

/-!
# What the number of edits tells

The number of edits is zero exactly for sequences that are the same frame by frame, and it is at
least the difference of the lengths, since an edit changes the length by one at most
(`Edit.Script.length_le`).

Where swaps are allowed, fewer edits may do, but **not less than half as many**
(`Edit.count_le_two_mul_count_swaps`): what a swap does to two neighbours, two replacements do as
well. The two counts are never compared row by row. A script for the one is turned into a script
for the other, and each count is the least cost of its scripts.

Nothing of this asks more of the test than that it gives an answer.
-/

namespace CrashTriage

namespace Edit

variable {α : Type} {same : α → α → Bool} {swaps : Bool} {a b : List α} {n : Nat}

/-! ### Scripts -/

namespace Script

/-- **An edit changes the length by one at most.** -/
theorem length_le (h : Script same swaps a b n) :
    a.length ≤ b.length + n ∧ b.length ≤ a.length + n := by
  induction h with
  | done => exact ⟨Nat.le_refl _, Nat.le_refl _⟩
  | delete rest ih | insert rest ih | replace rest ih =>
    simp only [List.length_cons]
    omega
  | swap hswaps hfirst hsecond rest ih =>
    simp only [List.length_cons]
    omega

/-- A script without swaps is one where they are allowed. -/
theorem allow (swaps : Bool) (h : Script same false a b n) : Script same swaps a b n := by
  induction h with
  | done => exact done
  | delete rest ih => exact ih.delete
  | insert rest ih => exact ih.insert
  | replace rest ih => exact ih.replace
  | swap hswaps hfirst hsecond rest ih => exact absurd hswaps Bool.false_ne_true

/-- **Two replacements do what a swap does**, so without swaps a script costs at most twice as
much. -/
theorem exists_le_two_mul (h : Script same swaps a b n) :
    ∃ n' ≤ 2 * n, Script same false a b n' := by
  induction h with
  | done => exact ⟨0, Nat.le_refl 0, done⟩
  | delete rest ih =>
    obtain ⟨n', hle, hrest⟩ := ih
    exact ⟨n' + 1, by omega, hrest.delete⟩
  | insert rest ih =>
    obtain ⟨n', hle, hrest⟩ := ih
    exact ⟨n' + 1, by omega, hrest.insert⟩
  | replace rest ih =>
    obtain ⟨n', hle, hrest⟩ := ih
    exact ⟨_, by omega, hrest.replace⟩
  | @swap x x' y y' xs ys n hswaps hfirst hsecond rest ih =>
    obtain ⟨n', hle, hrest⟩ := ih
    have hcost : replaceCost same x y ≤ 1 := replaceCost_le_one same x y
    have hcost' : replaceCost same x' y' ≤ 1 := replaceCost_le_one same x' y'
    exact ⟨_, by omega, hrest.replace.replace⟩

end Script

/-! ### Counts -/

/-- **At least the difference of the lengths** is to be deleted or inserted. -/
theorem length_le_add_count (same : α → α → Bool) (swaps : Bool) (a b : List α) :
    a.length ≤ b.length + count same swaps a b ∧ b.length ≤ a.length + count same swaps a b :=
  (script_count a b).length_le

/-- Swaps only save edits. -/
theorem count_swaps_le_count (same : α → α → Bool) (a b : List α) :
    count same true a b ≤ count same false a b :=
  count_le_of_script ((script_count a b).allow true)

/-- **Swaps save at most half of the edits.** -/
theorem count_le_two_mul_count_swaps (same : α → α → Bool) (a b : List α) :
    count same false a b ≤ 2 * count same true a b := by
  have hleast : Script same true a b (count same true a b) := script_count a b
  obtain ⟨n', hle, hscript⟩ := hleast.exists_le_two_mul
  exact (count_le_of_script hscript).trans hle

/-- Half of them are saved where there is nothing to do but a swap. -/
example :
    count (· == ·) true ['a', 'b'] ['b', 'a'] = 1
      ∧ count (· == ·) false ['a', 'b'] ['b', 'a'] = 2 := by
  decide

/-- The count is zero exactly for sequences of one length with the same frames at all positions. -/
theorem count_eq_zero_iff_getElem :
    count same swaps a b = 0 ↔ a.length = b.length
      ∧ ∀ (i : Nat) (ha : i < a.length) (hb : i < b.length), same a[i] b[i] = true := by
  rw [count_eq_zero_iff, List.forall₂_iff_get]
  rfl

end Edit

namespace Metric

/-- **Resolved frames are led to themselves by no edit**, and only they are. -/
theorem editCount_self_eq_zero_iff {swaps : Bool} {l : List Frame} :
    Edit.count Frame.sameSite swaps l l = 0 ↔ ∀ f ∈ l, f.isUnresolved = false := by
  rw [Edit.count_eq_zero_iff, List.forall₂_same]
  refine forall₂_congr fun f _ => ?_
  rw [Frame.sameSite_self, Frame.isResolved_iff]

/-- **What the number of edits tells of two sequences of frames**, whatever kinds they mix. With
swaps or without them it is zero exactly if the sequences have the same sites at all positions, so
from a sequence to itself exactly if no frame of it is unresolved; and it is at least the difference
of the lengths. With swaps it is at most what it is without them, and at least half of that. -/
theorem editCount_separates (a b : List Frame) :
    (∀ swaps : Bool,
        (Edit.count Frame.sameSite swaps a b = 0 ↔ a.length = b.length
          ∧ ∀ (i : Nat) (ha : i < a.length) (hb : i < b.length), a[i].sameSite b[i] = true)
        ∧ (Edit.count Frame.sameSite swaps a a = 0 ↔ ∀ f ∈ a, f.isUnresolved = false)
        ∧ a.length - b.length ≤ Edit.count Frame.sameSite swaps a b
        ∧ b.length - a.length ≤ Edit.count Frame.sameSite swaps a b)
      ∧ Edit.count Frame.sameSite true a b ≤ Edit.count Frame.sameSite false a b
      ∧ Edit.count Frame.sameSite false a b ≤ 2 * Edit.count Frame.sameSite true a b := by
  refine ⟨fun swaps => ⟨Edit.count_eq_zero_iff_getElem, editCount_self_eq_zero_iff, ?_⟩,
    Edit.count_swaps_le_count _ a b, Edit.count_le_two_mul_count_swaps _ a b⟩
  obtain ⟨hleft, hright⟩ := Edit.length_le_add_count Frame.sameSite swaps a b
  exact ⟨Nat.sub_le_iff_le_add'.mpr hleft, Nat.sub_le_iff_le_add'.mpr hright⟩

end Metric

end CrashTriage
