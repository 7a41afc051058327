import CrashTriage.Grid.Cell
import Mathlib.Data.Nat.Choose.Basic
import Mathlib.Tactic.Ring

/-!
# The sequence of the cells

The cells of a matrix are told in three ways: by a closed form for the place of a cell
(`Cell.position`), by a walk over whole rows (`Shape.cellAt?`), and by a walk from cell to cell
(`Shape.run`). This file shows that all three tell **the same sequence**, in which every cell of
the matrix has one place and every place below `Shape.cellCount` has one cell.

Everything rests on one recurrence: a row has as many cells as it is short of the population
(`Cell.rowStart_succ`). The closed form is not opened again after it.

* `Shape.position_lt_cellCount`, `Shape.position_injective`: places are in range, and no two cells
  share one;
* `Shape.mem_next_iff`, `Shape.position_next`: a step of the walk moves one place on, and stays
  inside as long as there is a place to move to;
* `Shape.getElem?_run`: what a run lists;
* `Shape.cellAt?_eq_some_iff`: what the search finds.
-/

namespace CrashTriage

namespace Cell

/-! ### The starts of the rows -/

@[simp] theorem rowStart_zero (n : Nat) : rowStart n 0 = 0 := by
  simp [rowStart]

/-- What is taken off for the triangle left of the diagonal is never more than there is. -/
theorem triangle_le {n i : Nat} (h : i ≤ n) : i * (i - 1) / 2 ≤ i * (n - 1) := by
  have hle : i * (i - 1) ≤ i * (n - 1) := Nat.mul_le_mul_left i (by omega)
  omega

/-- **Row `i` has `n - 1 - i` cells.** -/
theorem rowStart_succ {n i : Nat} (h : i < n) :
    rowStart n (i + 1) = rowStart n i + (n - 1 - i) := by
  have htri : (i + 1) * (i + 1 - 1) / 2 = i * (i - 1) / 2 + i := Nat.triangle_succ i
  have hmul : (i + 1) * (n - 1) = i * (n - 1) + (n - 1) := Nat.succ_mul i (n - 1)
  have hle := triangle_le h.le
  simp only [rowStart, htri, hmul]
  omega

theorem rowStart_mono {n i k : Nat} (hik : i ≤ k) (hk : k ≤ n) :
    rowStart n i ≤ rowStart n k := by
  induction k with
  | zero =>
    obtain rfl : i = 0 := by omega
    exact Nat.le_refl _
  | succ k ih =>
    rcases Nat.lt_or_ge k i with hlt | hge
    · obtain rfl : i = k + 1 := by omega
      exact Nat.le_refl _
    · rw [rowStart_succ (by omega : k < n)]
      exact Nat.le_add_right_of_le (ih hge (by omega))

/-! ### Places -/

/-- A cell lies in front of the next row. -/
theorem position_lt_rowStart_succ {n : Nat} {c : Cell} (h : c.row < c.column)
    (hc : c.column < n) : c.position n < rowStart n (c.row + 1) := by
  rw [rowStart_succ (by omega), position]
  omega

theorem rowStart_le_position (n : Nat) (c : Cell) : rowStart n c.row ≤ c.position n :=
  Nat.le_add_right _ _

/-- A cell comes before every cell of a lower row. -/
theorem position_lt_of_row_lt {n : Nat} {c c' : Cell} (h : c.row < c.column) (hc : c.column < n)
    (hrow : c.row < c'.row) (hc' : c'.row ≤ n) : c.position n < c'.position n :=
  calc
    c.position n < rowStart n (c.row + 1) := position_lt_rowStart_succ h hc
    _ ≤ rowStart n c'.row := rowStart_mono hrow hc'
    _ ≤ c'.position n := rowStart_le_position n c'

/-- **Two cells at one place are the same**, whatever matrix they lie in. -/
theorem eq_of_position_eq {n : Nat} {c c' : Cell} (h : c.row < c.column) (hc : c.column < n)
    (h' : c'.row < c'.column) (hc' : c'.column < n) (heq : c.position n = c'.position n) :
    c = c' := by
  have hrow : c.row = c'.row := by
    rcases Nat.lt_trichotomy c.row c'.row with hlt | hrow | hgt
    · have := position_lt_of_row_lt h hc hlt (by omega)
      omega
    · exact hrow
    · have := position_lt_of_row_lt h' hc' hgt (by omega)
      omega
  have hcolumn : c.column = c'.column := by
    rw [position, position, hrow] at heq
    omega
  cases c
  cases c'
  exact congr (congrArg Cell.mk hrow) hcolumn

end Cell

namespace Shape

variable {s : Shape} {c c' : Cell}

theorem position_lt_cellCount (hs : s.rows < s.columns) (hc : c ∈ s) :
    c.position s.columns < s.cellCount := by
  obtain ⟨hrow, hlt, hcolumn⟩ := mem_iff.mp hc
  calc
    c.position s.columns < Cell.rowStart s.columns (c.row + 1) :=
      Cell.position_lt_rowStart_succ hlt hcolumn
    _ ≤ Cell.rowStart s.columns s.rows := Cell.rowStart_mono hrow hs.le

/-- **No two cells of a matrix share a place.** -/
theorem position_injective (hc : c ∈ s) (hc' : c' ∈ s)
    (heq : c.position s.columns = c'.position s.columns) : c = c' :=
  Cell.eq_of_position_eq hc.2.1 hc.2.2 hc'.2.1 hc'.2.2 heq

/-! ### From cell to cell -/

/-- A step leads one place on, at the end of a row as well. -/
theorem position_next (hc : c ∈ s) :
    (s.next c).position s.columns = c.position s.columns + 1 := by
  obtain ⟨-, hlt, hcolumn⟩ := mem_iff.mp hc
  unfold next
  split
  · next hend =>
    have hsucc := Cell.rowStart_succ (by omega : c.row < s.columns)
    simp only [Cell.position, hsucc]
    omega
  · simp only [Cell.position]
    omega

/-- **A step stays inside exactly when there is a place to step to.** -/
theorem mem_next_iff (hs : s.rows < s.columns) (hc : c ∈ s) :
    s.next c ∈ s ↔ c.position s.columns + 1 < s.cellCount := by
  constructor
  · intro hnext
    rw [← position_next hc]
    exact position_lt_cellCount hs hnext
  · intro hlt
    obtain ⟨hrow, hdiag, hcolumn⟩ := mem_iff.mp hc
    rw [mem_iff, next]
    split
    · next hend =>
      -- the last cell of the last row has no place behind it
      have hne : c.row + 1 ≠ s.rows := by
        intro hlast
        have hcount : s.cellCount = Cell.rowStart s.columns (c.row + 1) := by
          rw [cellCount, hlast]
        have hsucc := Cell.rowStart_succ (by omega : c.row < s.columns)
        rw [hcount, hsucc, Cell.position] at hlt
        omega
      exact ⟨by dsimp only; omega, by dsimp only; omega, by dsimp only; omega⟩
    · exact ⟨hrow, by dsimp only; omega, by dsimp only; omega⟩

/-- The walk goes on from a cell exactly when the cell belongs to the matrix: a cell that follows
one of the matrix leaves the diagonal behind it. -/
theorem next_walkable_iff (hc : c ∈ s) :
    ((s.next c).row < s.rows ∧ (s.next c).column < s.columns) ↔ s.next c ∈ s := by
  obtain ⟨-, hlt, -⟩ := mem_iff.mp hc
  have hdiag : (s.next c).row < (s.next c).column := by
    unfold next
    split <;> dsimp only <;> omega
  rw [mem_iff]
  exact ⟨fun h => ⟨h.1, hdiag, h.2⟩, fun h => ⟨h.1, h.2.2⟩⟩

/-! ### Runs -/

theorem run_succ (hc : c ∈ s) (length : Nat) :
    s.run c (length + 1) = c :: s.run (s.next c) length := by
  rw [run, if_pos ⟨hc.1, hc.2.2⟩]

/-- A run that starts behind the last cell is empty. -/
theorem run_next_eq_nil (hs : s.rows < s.columns) (hc : c ∈ s)
    (hlast : s.cellCount ≤ c.position s.columns + 1) (length : Nat) :
    s.run (s.next c) length = [] := by
  cases length with
  | zero => rfl
  | succ length =>
    rw [run, if_neg]
    rw [next_walkable_iff hc, mem_next_iff hs hc]
    omega

theorem mem_of_mem_run (hs : s.rows < s.columns) (hc : c ∈ s) {length : Nat}
    (h : c' ∈ s.run c length) : c' ∈ s := by
  induction length generalizing c with
  | zero => exact absurd h (by simp [run])
  | succ length ih =>
    rw [run_succ hc, List.mem_cons] at h
    rcases h with rfl | h
    · exact hc
    · by_cases hnext : s.next c ∈ s
      · exact ih hnext h
      · rw [mem_next_iff hs hc, Nat.not_lt] at hnext
        rw [run_next_eq_nil hs hc hnext] at h
        exact absurd h List.not_mem_nil

/-- **A run lists consecutive places**, from that of its first cell on, until its length or the
sequence is at an end. -/
theorem map_position_run (hs : s.rows < s.columns) (hc : c ∈ s) (length : Nat) :
    (s.run c length).map (Cell.position s.columns)
      = List.range' (c.position s.columns) (min length (s.cellCount - c.position s.columns)) := by
  induction length generalizing c with
  | zero => simp [run]
  | succ length ih =>
    have hpos := position_lt_cellCount hs hc
    have hmin : min (length + 1) (s.cellCount - c.position s.columns)
        = min length (s.cellCount - (c.position s.columns + 1)) + 1 := by omega
    rw [run_succ hc, List.map_cons, hmin, List.range'_succ]
    congr 1
    by_cases hnext : s.next c ∈ s
    · rw [ih hnext, position_next hc]
    · rw [mem_next_iff hs hc, Nat.not_lt] at hnext
      rw [run_next_eq_nil hs hc hnext, Nat.sub_eq_zero_of_le hnext]
      simp

theorem length_run (hs : s.rows < s.columns) (hc : c ∈ s) (length : Nat) :
    (s.run c length).length = min length (s.cellCount - c.position s.columns) := by
  have h := congrArg List.length (map_position_run hs hc length)
  rwa [List.length_map, List.length_range'] at h

/-- **The cell that a run lists at `k`** is the cell of the matrix that is `k` places behind the
first one. -/
theorem getElem?_run (hs : s.rows < s.columns) (hc : c ∈ s) {length k : Nat} :
    (s.run c length)[k]? = some c'
      ↔ k < length ∧ c' ∈ s ∧ c'.position s.columns = c.position s.columns + k := by
  have hlen := length_run hs hc length
  have hat : ((s.run c length)[k]?).map (Cell.position s.columns)
      = (List.range' (c.position s.columns)
          (min length (s.cellCount - c.position s.columns)))[k]? := by
    rw [← map_position_run hs hc length, List.getElem?_map]
  constructor
  · -- the places that the run lists are known, and its cells are those at these places
    intro h
    have hmem : c' ∈ s := mem_of_mem_run hs hc (List.mem_of_getElem? h)
    obtain ⟨hk, -⟩ := List.getElem?_eq_some_iff.mp h
    rw [h, List.getElem?_range' (by omega)] at hat
    refine ⟨by omega, hmem, ?_⟩
    simpa using hat
  · rintro ⟨hk, hmem, hpos⟩
    have hlt := position_lt_cellCount hs hmem
    have hk' : k < (s.run c length).length := by omega
    rw [List.getElem?_eq_getElem hk'] at hat ⊢
    rw [List.getElem?_range' (by omega)] at hat
    have hat' : ((s.run c length)[k]).position s.columns = c'.position s.columns := by
      rw [hpos]
      simpa using hat
    exact congrArg some
      (position_injective (mem_of_mem_run hs hc (List.getElem_mem hk')) hmem hat')

/-- The first cell of all, for an extent that has one. -/
theorem first_mem (hs : s.IsProper) : ({ row := 0, column := 1 } : Cell) ∈ s :=
  ⟨hs.1, Nat.zero_lt_one, by have := hs.1; have := hs.2; dsimp only; omega⟩

theorem position_first (n : Nat) : ({ row := 0, column := 1 } : Cell).position n = 0 := by
  simp [Cell.position]

/-- **The cells of a matrix are listed completely.** -/
theorem mem_cells_iff (hs : s.IsProper) : c ∈ s.cells ↔ c ∈ s := by
  constructor
  · intro h
    exact mem_of_mem_run hs.2 (first_mem hs) h
  · intro hc
    refine List.mem_of_getElem? ((getElem?_run hs.2 (first_mem hs)).mpr
      ⟨position_lt_cellCount hs.2 hc, hc, ?_⟩)
    rw [position_first, Nat.zero_add]

/-- **Every place has a cell.** -/
theorem exists_mem_of_lt_cellCount (hs : s.IsProper) {p : Nat} (hp : p < s.cellCount) :
    ∃ c ∈ s, c.position s.columns = p := by
  have hk : p < s.cells.length := by
    rw [cells, length_run hs.2 (first_mem hs), position_first]
    omega
  have h := (getElem?_run hs.2 (first_mem hs)).mp (List.getElem?_eq_getElem hk)
  exact ⟨_, h.2.1, by rw [h.2.2, position_first, Nat.zero_add]⟩

theorem cellCount_pos (hs : s.IsProper) : 0 < s.cellCount :=
  Nat.lt_of_le_of_lt (Nat.zero_le _) (position_lt_cellCount hs.2 (first_mem hs))

/-! ### The search for a place -/

/-- The search through some rows finds the cell of these rows that is as many places behind the
first of them as asked for. -/
theorem search_eq_some_iff {rows row rest : Nat} (hend : row + rows < s.columns) :
    cellAt?.search s rows row rest = some c
      ↔ row ≤ c.row ∧ c.row < row + rows ∧ c.row < c.column ∧ c.column < s.columns
        ∧ c.position s.columns = Cell.rowStart s.columns row + rest := by
  induction rows generalizing row rest with
  | zero =>
    simp only [cellAt?.search]
    constructor
    · intro h
      exact absurd h (by simp)
    · rintro ⟨h1, h2, -⟩
      omega
  | succ rows ih =>
    have hsucc := Cell.rowStart_succ (by omega : row < s.columns)
    simp only [cellAt?.search]
    split
    · next hlt =>
      -- the place lies in this row, and no other cell is at it
      constructor
      · intro h
        obtain rfl := Option.some.inj h
        simp only [Cell.position]
        omega
      · rintro ⟨hge, hrow, hdiag, hcolumn, hpos⟩
        refine congrArg some (Cell.eq_of_position_eq (n := s.columns) ?_ ?_ hdiag hcolumn ?_)
        · dsimp only
          omega
        · dsimp only
          omega
        · rw [hpos, Cell.position]
          dsimp only
          omega
    · next hge =>
      -- the place lies behind this row, so the cell is in a lower one
      rw [ih (by omega)]
      constructor
      · rintro ⟨h1, h2, h3, h4, h5⟩
        exact ⟨by omega, by omega, h3, h4, by omega⟩
      · rintro ⟨h1, h2, h3, h4, h5⟩
        have hne : c.row ≠ row := by
          intro hrow
          have hlt := Cell.position_lt_rowStart_succ h3 h4
          rw [hrow] at hlt
          omega
        exact ⟨by omega, by omega, h3, h4, by omega⟩

/-- **The search finds the cell at a place.** -/
theorem cellAt?_eq_some_iff (hs : s.rows < s.columns) {p : Nat} :
    s.cellAt? p = some c ↔ c ∈ s ∧ c.position s.columns = p := by
  have hmin : min s.rows (s.columns - 1) = s.rows := by omega
  rw [cellAt?, hmin, search_eq_some_iff (by omega), Cell.rowStart_zero, mem_iff]
  constructor
  · rintro ⟨-, h2, h3, h4, h5⟩
    exact ⟨⟨by omega, h3, h4⟩, by omega⟩
  · rintro ⟨⟨h2, h3, h4⟩, h5⟩
    exact ⟨Nat.zero_le _, by omega, h3, h4, by omega⟩

/-! ### Extents -/

/-- A demand has an extent exactly when it asks for a row and there are two threads. -/
theorem clamp?_eq_some_iff {demand : Shape} :
    demand.clamp? = some s
      ↔ 1 ≤ demand.rows ∧ 2 ≤ demand.columns
        ∧ s = { demand with rows := min demand.rows (demand.columns - 1) } := by
  unfold clamp?
  split
  · next h =>
    constructor
    · intro h'
      exact absurd h' (by simp)
    · rintro ⟨h1, h2, -⟩
      omega
  · next h =>
    rw [Option.some.injEq]
    exact ⟨fun h' => ⟨by omega, by omega, h'.symm⟩, fun h' => h'.2.2.symm⟩

theorem isProper_of_clamp? {demand : Shape} (h : demand.clamp? = some s) : s.IsProper := by
  obtain ⟨h1, h2, rfl⟩ := clamp?_eq_some_iff.mp h
  exact ⟨by dsimp only; omega, by dsimp only; omega⟩

/-- However many rows are asked for, the population is the same. -/
theorem columns_of_clamp? {demand : Shape} (h : demand.clamp? = some s) :
    s.columns = demand.columns := by
  obtain ⟨-, -, rfl⟩ := clamp?_eq_some_iff.mp h
  rfl

/-- A proper extent is had for itself. -/
theorem clamp?_of_isProper (hs : s.IsProper) : s.clamp? = some s := by
  obtain ⟨h1, h2⟩ := hs
  refine clamp?_eq_some_iff.mpr ⟨h1, by omega, ?_⟩
  have hmin : min s.rows (s.columns - 1) = s.rows := by omega
  rw [hmin]

end Shape

end CrashTriage
