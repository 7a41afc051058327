import CrashTriage.Proofs.Grid.Enumeration
import Mathlib.Data.List.Nodup

/-!
# The cells row by row

The cells of a matrix can be written down without any walk: for each row, the columns behind the
diagonal (`Shape.rowMajor`). This is the list that **the walk from cell to cell goes through**
(`Shape.cells_eq_rowMajor`). A list of cells of a matrix is known from their places alone
(`Shape.eq_of_map_position_eq`), so it is enough that the rows, one behind the other, take all
places in order (`Shape.map_position_rowMajor`).
-/

namespace CrashTriage

namespace Shape

variable {s : Shape} {c : Cell} {i k : Nat}

/-- The cells of row `i`, from the diagonal to the last column. -/
def rowCells (s : Shape) (i : Nat) : List Cell :=
  (List.range' (i + 1) (s.columns - (i + 1))).map fun j => { row := i, column := j }

/-- The cells of all rows, one row after the other. -/
def rowMajor (s : Shape) : List Cell :=
  (List.range s.rows).flatMap s.rowCells

theorem mem_rowCells_iff : c ∈ s.rowCells i ↔ c.row = i ∧ i < c.column ∧ c.column < s.columns := by
  rw [rowCells, List.mem_map]
  constructor
  · rintro ⟨j, hj, rfl⟩
    rw [List.mem_range'_1] at hj
    exact ⟨rfl, hj.1, by dsimp only; omega⟩
  · rintro ⟨rfl, hlt, hcolumn⟩
    exact ⟨c.column, List.mem_range'_1.mpr ⟨hlt, by omega⟩, rfl⟩

/-- **Every cell of the matrix is in the list**, and nothing else. -/
theorem mem_rowMajor_iff : c ∈ s.rowMajor ↔ c ∈ s := by
  rw [rowMajor, List.mem_flatMap, mem_iff]
  constructor
  · rintro ⟨i, hi, hc⟩
    obtain ⟨rfl, hlt, hcolumn⟩ := mem_rowCells_iff.mp hc
    exact ⟨List.mem_range.mp hi, hlt, hcolumn⟩
  · rintro ⟨hrow, hlt, hcolumn⟩
    exact ⟨c.row, List.mem_range.mpr hrow, mem_rowCells_iff.mpr ⟨rfl, hlt, hcolumn⟩⟩

/-! ### The places of the list -/

theorem map_position_rowCells (s : Shape) (i : Nat) :
    (s.rowCells i).map (Cell.position s.columns)
      = List.range' (Cell.rowStart s.columns i) (s.columns - 1 - i) := by
  rw [rowCells, List.map_map]
  refine List.ext_getElem (by simp; omega) fun k hk hk' => ?_
  simp only [List.getElem_map, List.getElem_range', Function.comp_apply, Cell.position]
  omega

/-- **The first rows take the first places**, in order. -/
theorem map_position_rows (s : Shape) (hk : k ≤ s.columns) :
    ((List.range k).flatMap s.rowCells).map (Cell.position s.columns)
      = List.range' 0 (Cell.rowStart s.columns k) := by
  induction k with
  | zero => simp
  | succ k ih =>
    rw [List.range_succ, List.flatMap_append, List.map_append, ih (Nat.le_of_succ_le hk),
      List.flatMap_singleton, map_position_rowCells, Cell.rowStart_succ hk,
      ← List.range'_append_1, Nat.zero_add]

theorem map_position_rowMajor (hs : s.rows < s.columns) :
    s.rowMajor.map (Cell.position s.columns) = List.range' 0 s.cellCount :=
  s.map_position_rows hs.le

/-- **Cells of a matrix are known from their places.** -/
theorem eq_of_map_position_eq {l l' : List Cell} (hl : ∀ c ∈ l, c ∈ s) (hl' : ∀ c ∈ l', c ∈ s)
    (h : l.map (Cell.position s.columns) = l'.map (Cell.position s.columns)) : l = l' := by
  induction l generalizing l' with
  | nil => exact (List.map_eq_nil_iff.mp h.symm).symm
  | cons c l ih =>
    obtain ⟨c', rest, rfl, hposition, hrest⟩ := List.map_eq_cons_iff.mp h.symm
    obtain ⟨hc, hl⟩ := List.forall_mem_cons.mp hl
    obtain ⟨hc', hl'⟩ := List.forall_mem_cons.mp hl'
    rw [position_injective hc hc' hposition.symm, ih hl hl' hrest.symm]

/-- **The walk from cell to cell goes row by row.** -/
theorem cells_eq_rowMajor (hs : s.IsProper) : s.cells = s.rowMajor := by
  refine eq_of_map_position_eq (fun c hc => (mem_cells_iff hs).mp hc)
    (fun c hc => mem_rowMajor_iff.mp hc) ?_
  rw [map_position_rowMajor hs.2, cells, map_position_run hs.2 (first_mem hs), position_first,
    Nat.sub_zero, Nat.min_self]

/-- **No cell is listed twice.** -/
theorem nodup_rowMajor (hs : s.rows < s.columns) : s.rowMajor.Nodup := by
  refine List.Nodup.of_map (Cell.position s.columns) ?_
  rw [map_position_rowMajor hs]
  exact List.nodup_range'

end Shape

end CrashTriage
