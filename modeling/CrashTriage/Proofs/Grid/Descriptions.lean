import CrashTriage.Proofs.Grid.Exact

/-!
# Three descriptions of one sequence

The closed form for the place of a cell, the search for the cell at a place and the walk from cell to
cell describe the same sequence (`Shape.describesOneSequence`):

| description | what it tells | in terms of the closed form |
|---|---|---|
| `Cell.position` | the place of a cell | calculated exactly, for every cell |
| `Shape.cellAt?` | the cell at a place | the one cell of that place; none behind the last |
| `Shape.run` | the cells from one on | those at the places that follow, up to the last |

A run may start anywhere, also in the middle of a row, and be as long as it likes: it ends with the
last cell at the latest.
-/

namespace CrashTriage

namespace Shape

variable {s : Shape} {c : Cell}

/-- **The search fails behind the last cell only.** -/
theorem cellAt?_eq_none_iff (hs : s.IsProper) {p : Nat} :
    s.cellAt? p = none ↔ s.cellCount ≤ p := by
  constructor
  · intro hnone
    by_contra hlt
    obtain ⟨c, hc, hposition⟩ := exists_mem_of_lt_cellCount hs (Nat.lt_of_not_le hlt)
    rw [(cellAt?_eq_some_iff hs.2).mpr ⟨hc, hposition⟩] at hnone
    exact absurd hnone (Option.some_ne_none c)
  · intro hle
    rcases hfound : s.cellAt? p with _ | c
    · rfl
    · obtain ⟨hc, rfl⟩ := (cellAt?_eq_some_iff hs.2).mp hfound
      exact absurd (position_lt_cellCount hs.2 hc) (Nat.not_lt_of_le hle)

/-- **A run lists what the search finds** at the places that follow. -/
theorem getElem?_run_eq_cellAt? (hs : s.rows < s.columns) (hc : c ∈ s) {length k : Nat}
    (hk : k < (s.run c length).length) :
    (s.run c length)[k]? = s.cellAt? (c.position s.columns + k) := by
  have hget := List.getElem?_eq_getElem hk
  obtain ⟨-, hmem, hposition⟩ := (getElem?_run hs hc).mp hget
  rw [hget, (cellAt?_eq_some_iff hs).mpr ⟨hmem, hposition⟩]

/-- **The descriptions of the sequence of the cells agree.** -/
structure DescribesOneSequence (s : Shape) : Prop where
  /-- The search finds the cells of the matrix, each at its place. -/
  found_iff : ∀ p c, s.cellAt? p = some c ↔ c ∈ s ∧ c.position s.columns = p
  /-- It finds nothing from the number of cells on. -/
  not_found_iff : ∀ p, s.cellAt? p = none ↔ s.cellCount ≤ p
  /-- The number of cells is calculated exactly, with words that can hold the product in it. -/
  cellCount_exact : ∀ limit, s.rows * (s.columns - 1) < limit →
    s.cellCount? limit = some s.cellCount
  /-- With such words, the place of a cell is calculated exactly. -/
  position_exact : ∀ limit, s.rows * (s.columns - 1) < limit → ∀ c ∈ s,
    c.position? limit s.columns = some (c.position s.columns)
  /-- A run is as long as it is meant to be, unless the last cell comes before. -/
  run_length : ∀ c ∈ s, ∀ length,
    (s.run c length).length = min length (s.cellCount - c.position s.columns)
  /-- A run lists what the search finds at the places that follow. -/
  run_get : ∀ c ∈ s, ∀ length k, k < (s.run c length).length →
    (s.run c length)[k]? = s.cellAt? (c.position s.columns + k)

/-- **The closed form, the search and the walk describe one sequence of cells**, whatever the extent
of the matrix. -/
theorem describesOneSequence (hs : s.IsProper) : s.DescribesOneSequence where
  found_iff _ _ := cellAt?_eq_some_iff hs.2
  not_found_iff _ := cellAt?_eq_none_iff hs
  cellCount_exact _ hlimit := cellCount?_eq hs hlimit
  position_exact _ hlimit _ hc := position?_eq hlimit hc
  run_length _ hc length := length_run hs.2 hc length
  run_get _ hc _ _ hk := getElem?_run_eq_cellAt? hs.2 hc hk

/-- A run from the middle of the second row of three, which is to go on longer than there are
cells. -/
theorem describesOneSequence_middle_of_row :
    let s : Shape := ⟨3, 5⟩
    s.IsProper ∧ s.cellAt? 5 = some ⟨1, 3⟩ ∧ s.cellAt? 9 = none
      ∧ Cell.position? (2 ^ 64) 5 ⟨1, 3⟩ = some 5
      ∧ (s.run ⟨1, 3⟩ 8).length = 4 ∧ (s.run ⟨1, 3⟩ 8)[2]? = s.cellAt? 7 := by
  intro s
  have hs : s.IsProper := by decide
  have hc : (⟨1, 3⟩ : Cell) ∈ s := by decide
  have h := describesOneSequence hs
  have hlength : (s.run ⟨1, 3⟩ 8).length = 4 :=
    (h.run_length ⟨1, 3⟩ hc 8).trans (by decide)
  exact ⟨hs, (h.found_iff 5 ⟨1, 3⟩).mpr ⟨hc, rfl⟩, (h.not_found_iff 9).mpr (by decide),
    h.position_exact (2 ^ 64) (by decide) ⟨1, 3⟩ hc, hlength,
    h.run_get ⟨1, 3⟩ hc 8 2 (by omega)⟩

end Shape

end CrashTriage
