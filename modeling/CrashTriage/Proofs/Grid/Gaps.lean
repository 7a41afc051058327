import CrashTriage.Proofs.Grid.Exact
import Mathlib.Data.Set.Card

/-!
# The gaps of the storage

Row by row the cells take consecutive slots, and behind each row but the last **one slot is left
out** (`Cell.slotBehind`). These are all the gaps there are (`Shape.isGap_iff`), so a matrix of `m`
rows has `m - 1` of them, one between any two consecutive rows, and as many slots as cells and gaps
together (`Shape.isGappedLayout`).

For three rows in a population of five, with dots for the gaps:

| slot | 0 | 1 | 2 | 3 | 4 | 5 | 6 | 7 | 8 | 9 | 10 |
|---|---|---|---|---|---|---|---|---|---|---|---|
| cell | (0, 1) | (0, 2) | (0, 3) | (0, 4) | · | (1, 2) | (1, 3) | (1, 4) | · | (2, 3) | (2, 4) |
-/

namespace CrashTriage

namespace Cell

variable {n i k slot : Nat}

/-- **A cell precedes another one** if it lies in a row above, or further left in the same row. -/
def Precedes (c c' : Cell) : Prop :=
  c.row < c'.row ∨ c.row = c'.row ∧ c.column < c'.column

/-- The slot behind the last cell of row `i`. -/
def slotBehind (n i : Nat) : Nat :=
  rowStart n (i + 1) + i

theorem slotBehind_lt_slotBehind (h : i < k) (hk : k < n) : slotBehind n i < slotBehind n k := by
  have hmono : rowStart n (i + 1) ≤ rowStart n (k + 1) := rowStart_mono (by omega) (by omega)
  unfold slotBehind
  omega

/-- A slot in front of row `k` lies in one of the rows above, or behind it. -/
theorem exists_row_of_lt (h : slot < rowStart n k + k) :
    ∃ i < k, rowStart n i + i ≤ slot ∧ slot ≤ slotBehind n i := by
  induction k with
  | zero =>
    rw [rowStart_zero] at h
    omega
  | succ k ih =>
    rcases Nat.lt_or_ge slot (rowStart n k + k) with hlt | hge
    · obtain ⟨i, hi, hrow⟩ := ih hlt
      exact ⟨i, Nat.lt_succ_of_lt hi, hrow⟩
    · exact ⟨k, Nat.lt_succ_self k, hge, Nat.le_of_lt_succ h⟩

end Cell

namespace Shape

open Cell (slotBehind)

variable {s : Shape} {c c' : Cell} {i slot : Nat}

/-! ### The order of the slots -/

theorem position_lt_of_precedes (hc : c ∈ s) (hc' : c' ∈ s) (h : c.Precedes c') :
    c.position s.columns < c'.position s.columns := by
  obtain ⟨-, hlt, hcolumn⟩ := mem_iff.mp hc
  obtain ⟨-, hlt', hcolumn'⟩ := mem_iff.mp hc'
  rcases h with hrow | ⟨hrow, hbefore⟩
  · exact Cell.position_lt_of_row_lt hlt hcolumn hrow (by omega)
  · rw [Cell.position, Cell.position, hrow]
    omega

/-- The slots of a row and of those above lie in front of the slot behind it. -/
theorem slot_lt_slotBehind (hc : c ∈ s) (hrow : c.row ≤ i) (hi : i < s.columns) :
    c.slot s.columns < slotBehind s.columns i := by
  have hposition := Cell.position_lt_rowStart_succ hc.2.1 hc.2.2
  have hmono : Cell.rowStart s.columns (c.row + 1) ≤ Cell.rowStart s.columns (i + 1) :=
    Cell.rowStart_mono (by omega) (by omega)
  rw [slot_eq hc, slotBehind]
  omega

/-- The slots of the rows below lie behind it. -/
theorem slotBehind_lt_slot (hc : c ∈ s) (hrow : i < c.row) :
    slotBehind s.columns i < c.slot s.columns := by
  obtain ⟨-, hlt, hcolumn⟩ := mem_iff.mp hc
  have hposition := Cell.rowStart_le_position s.columns c
  have hmono : Cell.rowStart s.columns (i + 1) ≤ Cell.rowStart s.columns c.row :=
    Cell.rowStart_mono (by omega) (by omega)
  rw [slot_eq hc, slotBehind]
  omega

/-- Every row has a cell right of the diagonal. -/
theorem diagonal_mem (hs : s.IsProper) (hi : i < s.rows) :
    ({ row := i, column := i + 1 } : Cell) ∈ s := by
  have hlt := hs.2
  exact ⟨hi, Nat.lt_succ_self i, by dsimp only; omega⟩

/-! ### The gaps -/

/-- **There are as many slots as cells, and one more for each row but the last.** -/
theorem slotCount_eq (hs : s.IsProper) : s.slotCount = s.cellCount + s.rows - 1 := by
  obtain ⟨h1, h2⟩ := hs
  have hsucc := Cell.rowStart_succ (by omega : s.rows - 1 < s.columns)
  rw [Nat.sub_add_cancel h1] at hsucc
  rw [slotCount, slot_eq (lastCell_mem ⟨h1, h2⟩), cellCount, hsucc, Cell.position, lastCell]
  dsimp only
  omega

/-- The slot behind a row that is not the last one belongs to no cell. -/
theorem isGap_slotBehind (hs : s.IsProper) (hi : i + 1 < s.rows) :
    s.IsGap (slotBehind s.columns i) := by
  have hlt := hs.2
  constructor
  · have hmono : Cell.rowStart s.columns (i + 1) ≤ s.cellCount :=
      Cell.rowStart_mono (by omega) (by omega)
    rw [slotCount_eq hs, slotBehind]
    omega
  · intro c hc
    rcases Nat.lt_or_ge i c.row with hrow | hrow
    · exact (slotBehind_lt_slot hc hrow).ne'
    · exact (slot_lt_slotBehind hc hrow (by omega)).ne

/-- A slot between the start of a row and the slot behind it belongs to a cell of the row. -/
theorem exists_mem_slot_eq (hs : s.IsProper) (hi : i < s.rows)
    (hstart : Cell.rowStart s.columns i + i ≤ slot) (hstop : slot < slotBehind s.columns i) :
    ∃ c ∈ s, c.slot s.columns = slot := by
  have hlt := hs.2
  have hsucc := Cell.rowStart_succ (by omega : i < s.columns)
  rw [slotBehind, hsucc] at hstop
  have hmem : ({ row := i, column := i + 1 + (slot - (Cell.rowStart s.columns i + i)) } : Cell) ∈ s :=
    ⟨hi, by dsimp only; omega, by dsimp only; omega⟩
  refine ⟨_, hmem, ?_⟩
  rw [slot_eq hmem, Cell.position]
  dsimp only
  omega

/-- **The gaps are the slots behind the rows but the last.** -/
theorem isGap_iff (hs : s.IsProper) :
    s.IsGap slot ↔ ∃ i, i + 1 < s.rows ∧ slotBehind s.columns i = slot := by
  constructor
  · rintro ⟨hlt, hnone⟩
    have hcount : s.slotCount = Cell.rowStart s.columns s.rows + s.rows - 1 := slotCount_eq hs
    have hrows : slot < Cell.rowStart s.columns s.rows + s.rows := by omega
    obtain ⟨i, hi, hstart, hstop⟩ := Cell.exists_row_of_lt hrows
    rcases Nat.lt_or_eq_of_le hstop with hbefore | rfl
    · obtain ⟨c, hc, hslot⟩ := exists_mem_slot_eq hs hi hstart hbefore
      exact absurd hslot (hnone c hc)
    · -- behind the last row the storage is at an end
      refine ⟨i, ?_, rfl⟩
      by_contra hlast
      have heq : s.rows = i + 1 := by omega
      rw [hcount, slotBehind, heq] at hlt
      omega
  · rintro ⟨i, hi, rfl⟩
    exact isGap_slotBehind hs hi

theorem ncard_gaps (hs : s.IsProper) : {slot | s.IsGap slot}.ncard = s.rows - 1 := by
  have himage : {slot | s.IsGap slot}
      = slotBehind s.columns '' (Finset.range (s.rows - 1) : Set Nat) := by
    ext slot
    simp only [Set.mem_ofPred_eq, isGap_iff hs, Set.mem_image, Finset.coe_range, Set.mem_Iio,
      Nat.lt_sub_iff_add_lt]
  have hmono : StrictMonoOn (slotBehind s.columns) (Finset.range (s.rows - 1) : Set Nat) := by
    intro i _ k hk hik
    have hlt := hs.2
    rw [Finset.coe_range, Set.mem_Iio] at hk
    exact Cell.slotBehind_lt_slotBehind hik (by omega)
  rw [himage, Set.InjOn.ncard_image hmono.injOn, Set.ncard_coe_finset, Finset.card_range]

/-- **A slot lies between two consecutive rows** if it is behind the cells of the first one and of
those above, and in front of all other cells. -/
def IsBetweenRows (s : Shape) (i slot : Nat) : Prop :=
  (∀ c ∈ s, c.row ≤ i → c.slot s.columns < slot) ∧ ∀ c ∈ s, i < c.row → slot < c.slot s.columns

/-- **Between two consecutive rows there is one gap.** -/
theorem existsUnique_gap (hs : s.IsProper) (hi : i + 1 < s.rows) :
    ∃! slot, s.IsGap slot ∧ s.IsBetweenRows i slot := by
  have hlt := hs.2
  refine ⟨slotBehind s.columns i, ⟨isGap_slotBehind hs hi,
    fun c hc hrow => slot_lt_slotBehind hc hrow (by omega),
    fun c hc hrow => slotBehind_lt_slot hc hrow⟩, ?_⟩
  rintro slot ⟨hgap, hbehind, hbefore⟩
  obtain ⟨k, hk, rfl⟩ := (isGap_iff hs).mp hgap
  -- the slot behind another row has a row on the wrong side
  rcases Nat.lt_trichotomy k i with hki | rfl | hik
  · have hwrong := hbehind _ (diagonal_mem hs hk) hki
    exact absurd (slotBehind_lt_slot (diagonal_mem hs hk) (Nat.lt_succ_self k))
      (Nat.not_lt_of_lt hwrong)
  · rfl
  · have hmem := diagonal_mem hs (Nat.lt_of_succ_lt hk)
    have hright : Cell.slot s.columns { row := k, column := k + 1 } < slotBehind s.columns k :=
      slot_lt_slotBehind hmem le_rfl (by omega)
    exact absurd hright (Nat.not_lt_of_lt (hbefore _ hmem hik))

/-! ### The layout -/

/-- **The cells are laid out row by row, with one gap between the rows.** -/
structure IsGappedLayout (s : Shape) : Prop where
  /-- The slots rise with the cells. -/
  rising : ∀ c ∈ s, ∀ c' ∈ s, c.Precedes c' → c.slot s.columns < c'.slot s.columns
  /-- No two cells share a slot. -/
  injective : ∀ c ∈ s, ∀ c' ∈ s, c.slot s.columns = c'.slot s.columns → c = c'
  /-- Every cell has its slot inside the storage. -/
  inside : ∀ c ∈ s, c.slot s.columns < s.slotCount
  /-- With words that can hold the square of the number of columns, a slot is calculated exactly. -/
  slot_exact : ∀ limit, s.columns * s.columns < limit → ∀ c ∈ s,
    c.slot? limit s.columns = some (c.slot s.columns)
  /-- With such words, the number of slots is calculated exactly. -/
  slotCount_exact : ∀ limit, s.columns * s.columns < limit →
    s.slotCount? limit = some s.slotCount
  /-- The last slot belongs to a cell. -/
  last_used : ∃ c ∈ s, c.slot s.columns + 1 = s.slotCount
  /-- There is one gap fewer than there are rows. -/
  gap_count : {slot | s.IsGap slot}.ncard = s.rows - 1
  /-- There is one gap between any two consecutive rows. -/
  gap_between : ∀ i, i + 1 < s.rows → ∃! slot, s.IsGap slot ∧ s.IsBetweenRows i slot
  /-- There are as many slots as cells and gaps. -/
  slotCount_eq : s.slotCount = s.cellCount + s.rows - 1

/-- **The storage of every matrix is laid out row by row, with one gap between the rows.** -/
theorem isGappedLayout (hs : s.IsProper) : s.IsGappedLayout where
  rising _ hc _ hc' hprecedes := slot_lt_slot hc hc' (position_lt_of_precedes hc hc' hprecedes)
  injective _ hc _ hc' heq := slot_injective hc hc' heq
  inside _ hc := slot_lt_slotCount hs hc
  slot_exact _ hlimit _ hc := slot?_eq hlimit hc
  slotCount_exact _ hlimit := slotCount?_eq hs hlimit
  last_used := ⟨s.lastCell, lastCell_mem hs, rfl⟩
  gap_count := ncard_gaps hs
  gap_between _ hi := existsUnique_gap hs hi
  slotCount_eq := slotCount_eq hs

/-- Three rows in a population of five: nine cells, two gaps, eleven slots. -/
theorem isGappedLayout_three_rows :
    let s : Shape := ⟨3, 5⟩
    s.IsProper ∧ s.cellCount = 9 ∧ {slot | s.IsGap slot}.ncard = 2
      ∧ s.slotCount? (2 ^ 64) = some 11
      ∧ Cell.slot 5 ⟨0, 4⟩ < Cell.slot 5 ⟨1, 2⟩
      ∧ ∃! slot, s.IsGap slot ∧ s.IsBetweenRows 0 slot := by
  intro s
  have hs : s.IsProper := by decide
  have h := isGappedLayout hs
  exact ⟨hs, by decide, h.gap_count, (h.slotCount_exact (2 ^ 64) (by decide)).trans (by decide),
    h.rising ⟨0, 4⟩ (by decide) ⟨1, 2⟩ (by decide) (Or.inl Nat.zero_lt_one),
    h.gap_between 0 (by decide)⟩

end Shape

end CrashTriage
