import CrashTriage.DistanceMatrix
import CrashTriage.Proofs.Grid.Storage

/-!
# Reading and writing a pair

The distance of two threads is kept in the slot of one cell, whichever of them is named first. This
file says once what reading and writing do, for a matrix that is well formed: its cells have their
slots in the storage (`DistanceMatrix.IsWellFormed.slot_lt`), so **a pair has no distance, and a
write is refused, exactly outside of the matrix** (`DistanceMatrix.IsWellFormed.get?_eq_none_iff`,
`DistanceMatrix.IsWellFormed.set_eq_error_iff`).
-/

namespace CrashTriage

/-! ### Pairs in either order -/

namespace Cell

variable {c : Cell} {i j k l : Nat}

/-- A pair that is given in the order of its cell is that cell. -/
theorem between_row_column (h : c.row < c.column) : between c.row c.column = c := by
  rw [between, Nat.min_eq_left h.le, Nat.max_eq_right h.le]

theorem between_comm (i j : Nat) : between i j = between j i := by
  rw [between, between, Nat.min_comm, Nat.max_comm]

/-- **A cell is named by its two indices**, in either order. -/
theorem between_eq_between_iff :
    between i j = between k l ↔ (i = k ∧ j = l) ∨ (i = l ∧ j = k) := by
  rw [between, between, Cell.mk.injEq]
  omega

theorem between_mem_iff {s : Shape} (hne : i ≠ j) :
    between i j ∈ s ↔ min i j < s.rows ∧ max i j < s.columns := by
  rw [Shape.mem_iff, between]
  dsimp only
  omega

end Cell

namespace DistanceMatrix

variable {d : DistanceMatrix} {i j : Nat} {c : Cell} {x : Float32}

/-! ### Reading -/

theorem get?_self (d : DistanceMatrix) (i : Nat) :
    d.get? i i = if i < d.shape.columns then some 0 else none := by
  rw [get?, if_pos rfl]

/-- **Reading is symmetric.** -/
theorem get?_comm (d : DistanceMatrix) (i j : Nat) : d.get? i j = d.get? j i := by
  rcases eq_or_ne i j with rfl | hne
  · rfl
  · rw [get?, get?, if_neg hne, if_neg hne.symm, Cell.between_comm]

theorem get?_of_mem (hne : i ≠ j) (hc : Cell.between i j ∈ d.shape) :
    d.get? i j = d.slots[(Cell.between i j).slot d.shape.columns]? := by
  rw [get?, if_neg hne, if_pos hc]

theorem get?_of_not_mem (hne : i ≠ j) (hc : Cell.between i j ∉ d.shape) : d.get? i j = none := by
  rw [get?, if_neg hne, if_neg hc]

/-- **The slot of a cell is there.** -/
theorem IsWellFormed.slot_lt (hd : d.IsWellFormed) (hc : c ∈ d.shape) :
    c.slot d.shape.columns < d.slots.size := by
  rw [hd.2]
  exact Shape.slot_lt_slotCount hd.1 hc

theorem IsWellFormed.get?_ne_none (hd : d.IsWellFormed) (hne : i ≠ j)
    (hc : Cell.between i j ∈ d.shape) : d.get? i j ≠ none := by
  rw [get?_of_mem hne hc, Ne, Array.getElem?_eq_none_iff]
  exact Nat.not_le_of_lt (hd.slot_lt hc)

/-- **A pair has no distance** exactly if it lies outside of the matrix. -/
theorem IsWellFormed.get?_eq_none_iff (hd : d.IsWellFormed) :
    d.get? i j = none
      ↔ (i = j ∧ d.shape.columns ≤ i)
        ∨ (i ≠ j ∧ (d.shape.rows ≤ min i j ∨ d.shape.columns ≤ max i j)) := by
  rcases eq_or_ne i j with rfl | hne
  · rw [get?_self]
    split <;> simp <;> omega
  have hmem : Cell.between i j ∈ d.shape
      ↔ min i j < d.shape.rows ∧ max i j < d.shape.columns := Cell.between_mem_iff hne
  by_cases hc : Cell.between i j ∈ d.shape
  · have hin := hmem.mp hc
    exact iff_of_false (hd.get?_ne_none hne hc) (by omega)
  · have hout := mt hmem.mpr hc
    exact iff_of_true (get?_of_not_mem hne hc) (by omega)

/-! ### Writing -/

theorem set_of_mem (hd : d.IsWellFormed) (hne : i ≠ j) (hc : Cell.between i j ∈ d.shape) :
    d.set i j x
      = .ok { d with
          slots := d.slots.setIfInBounds ((Cell.between i j).slot d.shape.columns) x } := by
  rw [set, if_neg hne, if_pos ⟨hc, hd.slot_lt hc⟩]

theorem set_of_not_mem (hne : i ≠ j) (hc : Cell.between i j ∉ d.shape) :
    d.set i j x = .error (.outOfRange ⟨i, j⟩ d.shape) := by
  rw [set, if_neg hne, if_neg fun h => hc h.1]

theorem set_self (d : DistanceMatrix) (i : Nat) (x : Float32) :
    d.set i i x = if i < d.shape.columns then .ok d else .error (.outOfRange ⟨i, i⟩ d.shape) := by
  rw [set, if_pos rfl]

/-- **A write is refused exactly where there is nothing to read**, and names the pair as it was
given. -/
theorem IsWellFormed.set_eq_error_iff (hd : d.IsWellFormed) {e : ComparisonError} :
    d.set i j x = .error e ↔ d.get? i j = none ∧ e = .outOfRange ⟨i, j⟩ d.shape := by
  rcases eq_or_ne i j with rfl | hne
  · rw [get?_self, set_self]
    split <;> simp [eq_comm]
  · by_cases hc : Cell.between i j ∈ d.shape
    · rw [set_of_mem hd hne hc]
      exact iff_of_false (by simp) fun h => hd.get?_ne_none hne hc h.1
    · rw [set_of_not_mem hne hc, get?_of_not_mem hne hc]
      simp [eq_comm]

end DistanceMatrix

end CrashTriage
