import CrashTriage.Grid.Slot
import CrashTriage.Proofs.Grid.Enumeration

/-!
# Cells and gaps of the storage

The slot of a cell is its place in the sequence of the cells, moved on by one for each row above it
(`Cell.slot_eq`). So the slots rise with the cells, no two cells share one, all of them lie inside
the storage, and between two rows one slot is left over: a **gap** (`Shape.IsGap`).
-/

namespace CrashTriage

namespace Cell

/-- **The slot of a cell is its place, moved on by one for each row above.** -/
theorem slot_eq {n : Nat} {c : Cell} (h : c.row < c.column) (hc : c.column < n) :
    c.slot n = c.position n + c.row := by
  obtain ⟨i, j⟩ := c
  obtain ⟨l, rfl⟩ : ∃ l, n = i + l := ⟨n - i, by dsimp only at h hc; omega⟩
  simp only [slot, position, rowStart, Nat.add_sub_cancel_left] at h hc ⊢
  -- all products, written with the three that remain
  have hsquare : (i + l) * (i + l) = i * i + 2 * (i * l) + l * l := by ring
  have hrow : i * (i + l - 1) = i * i + i * l - i := by
    rw [Nat.mul_sub_one, Nat.mul_add]
  have htri : i * (i - 1) = i * i - i := Nat.mul_sub_one i i
  have heven : 2 ∣ i * (i - 1) := (Nat.even_mul_pred_self i).two_dvd
  have hi : i ≤ i * i := Nat.le_mul_self i
  have hl : l ≤ l * l := Nat.le_mul_self l
  rw [htri] at heven
  rw [hsquare, hrow, htri]
  omega

end Cell

namespace Shape

variable {s : Shape} {c c' : Cell}

theorem slot_eq (hc : c ∈ s) : c.slot s.columns = c.position s.columns + c.row :=
  Cell.slot_eq hc.2.1 hc.2.2

/-- **The slots rise with the cells.** -/
theorem slot_lt_slot (hc : c ∈ s) (hc' : c' ∈ s)
    (h : c.position s.columns < c'.position s.columns) : c.slot s.columns < c'.slot s.columns := by
  have hrow : c.row ≤ c'.row := by
    by_contra hgt
    have := Cell.position_lt_of_row_lt hc'.2.1 hc'.2.2 (Nat.lt_of_not_le hgt)
      (hc.2.1.trans hc.2.2).le
    omega
  rw [slot_eq hc, slot_eq hc']
  omega

/-- **No two cells of a matrix share a slot.** -/
theorem slot_injective (hc : c ∈ s) (hc' : c' ∈ s)
    (heq : c.slot s.columns = c'.slot s.columns) : c = c' := by
  refine position_injective hc hc' ?_
  rcases Nat.lt_trichotomy (c.position s.columns) (c'.position s.columns) with hlt | h | hgt
  · have := slot_lt_slot hc hc' hlt
    omega
  · exact h
  · have := slot_lt_slot hc' hc hgt
    omega

theorem lastCell_mem (hs : s.IsProper) : s.lastCell ∈ s := by
  obtain ⟨h1, h2⟩ := hs
  rw [mem_iff, lastCell]
  dsimp only
  omega

/-- No cell comes behind the last one. -/
theorem position_le_lastCell (hs : s.IsProper) (hc : c ∈ s) :
    c.position s.columns ≤ s.lastCell.position s.columns := by
  have hlt := position_lt_cellCount hs.2 hc
  obtain ⟨h1, h2⟩ := hs
  have hsucc := Cell.rowStart_succ (by omega : s.rows - 1 < s.columns)
  rw [Nat.sub_add_cancel h1] at hsucc
  rw [cellCount, hsucc] at hlt
  have hlast : s.lastCell.position s.columns
      = Cell.rowStart s.columns (s.rows - 1) + (s.columns - 1 - (s.rows - 1) - 1) := rfl
  omega

/-- **Every cell has its slot inside the storage.** -/
theorem slot_lt_slotCount (hs : s.IsProper) (hc : c ∈ s) : c.slot s.columns < s.slotCount := by
  rw [slotCount]
  rcases Nat.lt_or_ge (c.position s.columns) (s.lastCell.position s.columns) with hlt | hge
  · have := slot_lt_slot hc (lastCell_mem hs) hlt
    omega
  · have heq := position_injective hc (lastCell_mem hs)
      (Nat.le_antisymm (position_le_lastCell hs hc) hge)
    rw [heq]
    exact Nat.lt_succ_self _

/-- A slot of the storage that belongs to no cell. -/
def IsGap (s : Shape) (slot : Nat) : Prop :=
  slot < s.slotCount ∧ ∀ c ∈ s, c.slot s.columns ≠ slot

/-- Every slot belongs to a cell or is a gap. -/
theorem isGap_or_exists (s : Shape) {slot : Nat} (h : slot < s.slotCount) :
    s.IsGap slot ∨ ∃ c ∈ s, c.slot s.columns = slot := by
  by_cases hcell : ∃ c ∈ s, c.slot s.columns = slot
  · exact Or.inr hcell
  · exact Or.inl ⟨h, fun c hc heq => hcell ⟨c, hc, heq⟩⟩

end Shape

end CrashTriage
