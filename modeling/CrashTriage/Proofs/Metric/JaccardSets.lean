import CrashTriage.Metric.Jaccard
import CrashTriage.Proofs.Number.Single

/-!
# The Jaccard distance of a sequence from itself

If every frame is the same as itself, then each distinct frame of a sequence occurs in the sequence:
the intersection of the sequence with itself and the union are both as large as the number of
distinct frames, and **the distance is zero** (`Jaccard.distance_self`).

A frame that is the same as none is always distinct, but it does not occur. So with such a frame the
intersection stays smaller than the union (`Jaccard.common_lt_union`).
-/

namespace CrashTriage

namespace Jaccard

variable {α : Type} {same : α → α → Bool} {l : List α} {x : α}

/-- The distinct frames are frames of the sequence, in the same order. -/
theorem distinct_sublist (same : α → α → Bool) (l : List α) : (distinct same l).Sublist l := by
  induction l with
  | nil => exact List.Sublist.slnil
  | cons x xs ih =>
    rw [distinct]
    split
    · exact ih.cons x
    · exact ih.cons_cons x

/-! ### Frames that are the same as themselves -/

theorem common_self (h : ∀ x ∈ l, same x x = true) :
    common same l l = (distinct same l).length := by
  rw [common, List.countP_eq_length]
  intro x hx
  have hmem := (distinct_sublist same l).mem hx
  exact List.any_eq_true.mpr ⟨x, hmem, h x hmem⟩

theorem union_self (h : ∀ x ∈ l, same x x = true) :
    union same l l = (distinct same l).length := by
  rw [union, common_self h, Nat.add_sub_cancel]

/-- **A sequence of frames that are the same as themselves is at distance zero from itself.** -/
theorem distance_self (h : ∀ x ∈ l, same x x = true) (hlength : l.length < 2 ^ 64) :
    distance same l l = 0 := by
  have hle := (distinct_sublist same l).length_le
  rw [distance, common_self h, union_self h]
  split
  · rfl
  · next hne =>
    have hmoderate := Single.isModerate_toFloat32 (Nat.pos_of_ne_zero hne)
      (Nat.lt_of_le_of_lt hle hlength)
    -- one minus one, and zero is not below zero
    rw [Single.div_self hmoderate]
    decide +kernel

/-! ### Frames that are the same as none -/

theorem not_occurs (hnone : ∀ y, same y x = false) : occurs same l x = false := by
  rw [occurs, List.any_eq_false]
  intro y _
  rw [hnone y]
  exact Bool.false_ne_true

/-- A frame that is the same as none is distinct. -/
theorem mem_distinct (hx : x ∈ l) (hnone : ∀ y, same y x = false) : x ∈ distinct same l := by
  induction l with
  | nil => exact hx
  | cons y ys ih =>
    rw [distinct]
    rcases List.mem_cons.mp hx with rfl | hx
    · rw [not_occurs hnone]
      exact List.mem_cons_self
    · split
      · exact ih hx
      · exact List.mem_cons_of_mem y (ih hx)

/-- **With a frame that is the same as none, the sequence has not all of its frames in common with
itself.** -/
theorem common_lt_union (hx : x ∈ l) (hnone : ∀ y, same y x = false) :
    common same l l < union same l l := by
  have hlt : common same l l < (distinct same l).length := by
    -- if all distinct frames were common, then this one would be as well
    refine Nat.lt_of_le_of_ne List.countP_le_length fun hall => ?_
    have hoccurs := List.countP_eq_length.mp hall x (mem_distinct hx hnone)
    rw [not_occurs hnone] at hoccurs
    exact absurd hoccurs Bool.false_ne_true
  rw [union]
  omega

end Jaccard

end CrashTriage
