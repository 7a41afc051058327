import CrashTriage.Metric.Edit
import Mathlib.Data.List.Basic
import Mathlib.Order.MinMax

/-!
# The table of edit counts

Edits are counted with three rows that are handed round, and the full table is never there. This
file tells what it would be (`Edit.table`), by one recurrence for all entries, and shows that the
count is **the last entry of the full table** (`Edit.count_eq_table`).

The invariant is that the last row and the one above it are rows of the table
(`Edit.Rows.Holds`). The current row is one only up to the column that was filled last
(`Edit.Rows.HoldsUpTo`): what it holds behind that column is left from an older row, and is never
read.
-/

namespace CrashTriage

namespace Edit

variable {α : Type} {same : α → α → Bool} {swaps : Bool} {a b : List α} {i j : Nat} {x y : α}

/-! ### The full table -/

/-- The frame in front of a position. -/
def inFront (l : List α) : Nat → Option α
  | 0 => none
  | i + 1 => l[i]?

/-- The cost of putting frame `i` of `a` in the place of frame `j` of `b`. -/
def replaceCostAt (same : α → α → Bool) (a b : List α) (i j : Nat) : Nat :=
  match a[i]?, b[j]? with
  | some x, some y => replaceCost same x y
  | _, _ => 1

/-- Whether frame `i` of `a` and the one in front of it are frame `j` of `b` and the one in front of
that, crosswise. -/
def crossedAt (same : α → α → Bool) (a b : List α) (i j : Nat) : Bool :=
  match a[i]?, b[j]? with
  | some x, some y => crossed same (inFront a i) x (inFront b j) y
  | _, _ => false

/-- **The full table**: entry `(i, j)` is for the first `i` frames of `a` and the first `j` frames
of `b`. The last frame of the beginning of `a` is deleted, that of the beginning of `b` is inserted,
or the one is put in the place of the other; where that is allowed, the last two of both are
swapped. -/
def table (same : α → α → Bool) (swaps : Bool) (a b : List α) : (i j : Nat) → Nat
  | 0, j => j
  | i + 1, 0 => i + 1
  | i + 1, j + 1 =>
    let single :=
      min (min (table same swaps a b i (j + 1) + 1) (table same swaps a b (i + 1) j + 1))
        (table same swaps a b i j + replaceCostAt same a b i j)
    if swaps && crossedAt same a b i j then
      min single (table same swaps a b (i - 1) (j - 1) + 1)
    else single
termination_by i j => i + j

theorem table_zero_left (j : Nat) : table same swaps a b 0 j = j := by
  rw [table]

theorem table_zero_right (i : Nat) : table same swaps a b i 0 = i := by
  cases i <;> rw [table]

/-- The least cost of an entry if the last two frames are not swapped. -/
def singleCost (same : α → α → Bool) (swaps : Bool) (a b : List α) (i j : Nat) : Nat :=
  min (min (table same swaps a b i (j + 1) + 1) (table same swaps a b (i + 1) j + 1))
    (table same swaps a b i j + replaceCostAt same a b i j)

/-- **The recurrence of the table.** -/
theorem table_succ_succ (i j : Nat) :
    table same swaps a b (i + 1) (j + 1)
      = if swaps && crossedAt same a b i j then
          min (singleCost same swaps a b i j) (table same swaps a b (i - 1) (j - 1) + 1)
        else singleCost same swaps a b i j := by
  rw [table]
  rfl

theorem replaceCostAt_eq (hx : a[i]? = some x) (hy : b[j]? = some y) :
    replaceCostAt same a b i j = replaceCost same x y := by
  rw [replaceCostAt, hx, hy]

theorem crossedAt_eq (hx : a[i]? = some x) (hy : b[j]? = some y) :
    crossedAt same a b i j = crossed same (inFront a i) x (inFront b j) y := by
  rw [crossedAt, hx, hy]

/-- **Frames are swapped with the ones in front of them**, so there have to be some. -/
theorem crossedAt_eq_true_iff :
    crossedAt same a b i j = true
      ↔ ∃ k l x' x y' y, i = k + 1 ∧ j = l + 1 ∧ a[k]? = some x' ∧ a[k + 1]? = some x
          ∧ b[l]? = some y' ∧ b[l + 1]? = some y ∧ same x y' = true ∧ same x' y = true := by
  constructor
  · intro h
    unfold crossedAt at h
    split at h
    · next x y hx hy =>
      unfold crossed at h
      split at h
      · next x' y' hx' hy' =>
        obtain ⟨hfirst, hsecond⟩ := (Bool.and_eq_true _ _).mp h
        rcases i with _ | k
        · exact absurd hx' (by simp [inFront])
        rcases j with _ | l
        · exact absurd hy' (by simp [inFront])
        exact ⟨k, l, x', x, y', y, rfl, rfl, hx', hx, hy', hy, hfirst, hsecond⟩
      · exact absurd h (by simp)
    · exact absurd h (by simp)
  · rintro ⟨k, l, x', x, y', y, rfl, rfl, hx', hx, hy', hy, hfirst, hsecond⟩
    rw [crossedAt_eq hx hy, inFront, inFront, hx', hy', crossed, hfirst, hsecond]
    rfl

/-! ### Steps in the table -/

theorem table_succ_succ_le_singleCost (i j : Nat) :
    table same swaps a b (i + 1) (j + 1) ≤ singleCost same swaps a b i j := by
  rw [table_succ_succ]
  split
  · exact Nat.min_le_left _ _
  · exact Nat.le_refl _

theorem table_succ_left_le (i j : Nat) :
    table same swaps a b (i + 1) j ≤ table same swaps a b i j + 1 := by
  cases j with
  | zero =>
    rw [table_zero_right, table_zero_right]
  | succ j =>
    refine (table_succ_succ_le_singleCost i j).trans ?_
    exact (Nat.min_le_left _ _).trans (Nat.min_le_left _ _)

theorem table_succ_right_le (i j : Nat) :
    table same swaps a b i (j + 1) ≤ table same swaps a b i j + 1 := by
  cases i with
  | zero =>
    rw [table_zero_left, table_zero_left]
  | succ i =>
    refine (table_succ_succ_le_singleCost i j).trans ?_
    exact (Nat.min_le_left _ _).trans (Nat.min_le_right _ _)

theorem table_replace_le (i j : Nat) :
    table same swaps a b (i + 1) (j + 1)
      ≤ table same swaps a b i j + replaceCostAt same a b i j :=
  (table_succ_succ_le_singleCost i j).trans (Nat.min_le_right _ _)

theorem table_swap_le (hswaps : swaps = true)
    (hcrossed : crossedAt same a b (i + 1) (j + 1) = true) :
    table same swaps a b (i + 1 + 1) (j + 1 + 1) ≤ table same swaps a b i j + 1 := by
  rw [table_succ_succ, if_pos (by rw [hswaps, hcrossed]; rfl)]
  exact Nat.min_le_right _ _

/-- **Each entry is led to by a step** from another one, which is smaller by just the cost of the
step. -/
theorem table_succ_succ_cases (same : α → α → Bool) (swaps : Bool) (a b : List α) (i j : Nat) :
    table same swaps a b (i + 1) (j + 1) = table same swaps a b i (j + 1) + 1
      ∨ table same swaps a b (i + 1) (j + 1) = table same swaps a b (i + 1) j + 1
      ∨ table same swaps a b (i + 1) (j + 1)
          = table same swaps a b i j + replaceCostAt same a b i j
      ∨ (swaps = true ∧ crossedAt same a b i j = true
          ∧ table same swaps a b (i + 1) (j + 1)
              = table same swaps a b (i - 1) (j - 1) + 1) := by
  rw [table_succ_succ, singleCost]
  split
  · next hcrossed =>
    obtain ⟨hswaps, hcrossed⟩ := (Bool.and_eq_true _ _).mp hcrossed
    simp only [hswaps, hcrossed, true_and]
    omega
  · omega

/-! ### What the rows hold -/

/-- A list that goes on with a frame from a position on has that frame there. -/
theorem of_drop_eq_cons {l : List α} {xs : List α} (h : l.drop i = x :: xs) :
    l[i]? = some x ∧ l.drop (i + 1) = xs := by
  constructor
  · rw [← List.head?_drop, h, List.head?_cons]
  · rw [← List.tail_drop, h, List.tail_cons]

namespace Rows

variable {r : Rows} {width : Nat} {t : Nat → Nat → Nat}

/-- **What the rows hold** before row `i + 1` of a table is filled: row `i`, and the one above it if
there is one. -/
structure Holds (r : Rows) (width : Nat) (t : Nat → Nat → Nat) (i : Nat) : Prop where
  /-- The storage of the row above. -/
  size_before : r.before.size = width + 1
  /-- The storage of the last row. -/
  size_last : r.last.size = width + 1
  /-- The storage of the row to be filled. -/
  size_current : r.current.size = width + 1
  /-- The row above. -/
  before : ∀ k, i = k + 1 → ∀ j ≤ width, r.before[j]? = some (t k j)
  /-- The last row. -/
  last : ∀ j ≤ width, r.last[j]? = some (t i j)

/-- **What the rows hold** while row `i + 1` is filled: its entries up to a column as well. -/
structure HoldsUpTo (r : Rows) (width : Nat) (t : Nat → Nat → Nat) (i j : Nat) : Prop
    extends r.Holds width t i where
  /-- The filled part of the current row. -/
  current : ∀ k ≤ j, r.current[k]? = some (t (i + 1) k)

/-- A row that holds an entry gives it. -/
theorem getD_of_getElem? {row : Array Nat} {n : Nat} (h : row[j]? = some n) :
    row.getD j 0 = n := by
  rw [Array.getD_eq_getD_getElem?, h, Option.getD_some]

/-- Filling starts with the first column. -/
theorem Holds.write_zero (h : r.Holds width t i) :
    HoldsUpTo { r with current := r.current.setIfInBounds 0 (t (i + 1) 0) } width t i 0 where
  size_before := h.size_before
  size_last := h.size_last
  size_current := by rw [Array.size_setIfInBounds, h.size_current]
  before := h.before
  last := h.last
  current k hk := by
    obtain rfl : k = 0 := Nat.le_zero.mp hk
    rw [Array.getElem?_setIfInBounds_self_of_lt (by rw [h.size_current]; omega)]

/-- **Writing the next entry** leaves those in front of it alone. -/
theorem HoldsUpTo.write (h : r.HoldsUpTo width t i j) (hj : j < width) :
    HoldsUpTo { r with current := r.current.setIfInBounds (j + 1) (t (i + 1) (j + 1)) }
      width t i (j + 1) where
  size_before := h.size_before
  size_last := h.size_last
  size_current := by rw [Array.size_setIfInBounds, h.size_current]
  before := h.before
  last := h.last
  current k hk := by
    rcases Nat.lt_or_ge j k with hlt | hge
    · obtain rfl : k = j + 1 := by omega
      rw [Array.getElem?_setIfInBounds_self_of_lt (by rw [h.size_current]; omega)]
    · rw [Array.getElem?_setIfInBounds_ne (by omega), h.current k hge]

/-- **A filled row is handed on**: it is the last one now, and the storage of the oldest row is to
be written over. -/
theorem HoldsUpTo.rotate (h : r.HoldsUpTo width t i width) : r.rotate.Holds width t (i + 1) where
  size_before := h.size_last
  size_last := h.size_current
  size_current := h.size_before
  before k hk := by
    obtain rfl : i = k := Nat.succ.inj hk
    exact h.last
  last := h.current

/-- **An entry is computed from entries of the table** to an entry of the table. -/
theorem HoldsUpTo.entry_eq (h : r.HoldsUpTo b.length (table same swaps a b) i j)
    (hx : a[i]? = some x) (hy : b[j]? = some y) :
    r.entry same swaps (inFront a i) x j (inFront b j) y
      = table same swaps a b (i + 1) (j + 1) := by
  have hj : j < b.length := (List.getElem?_eq_some_iff.mp hy).1
  rw [table_succ_succ, entry, ← crossedAt_eq hx hy, singleCost, replaceCostAt_eq hx hy,
    getD_of_getElem? (h.last (j + 1) hj), getD_of_getElem? (h.last j (Nat.le_of_lt hj)),
    getD_of_getElem? (h.current j (Nat.le_refl j))]
  by_cases hcrossed : (swaps && crossedAt same a b i j) = true
  · -- there are frames in front, so the row two up has been filled, and it has a column two back
    obtain ⟨k, l, -, -, -, -, rfl, rfl, -⟩ :=
      crossedAt_eq_true_iff.mp ((Bool.and_eq_true _ _).mp hcrossed).2
    rw [if_pos hcrossed, if_pos hcrossed, Nat.add_sub_cancel, Nat.add_sub_cancel,
      getD_of_getElem? (h.before k rfl l (by omega))]
  · rw [if_neg hcrossed, if_neg hcrossed]

/-- **A row is filled** with its entries of the table. -/
theorem HoldsUpTo.fill {ys : List α} (h : r.HoldsUpTo b.length (table same swaps a b) i j)
    (hx : a[i]? = some x) (hys : b.drop j = ys) (hj : j ≤ b.length) :
    (r.fill same swaps (inFront a i) x j (inFront b j) ys).HoldsUpTo b.length
      (table same swaps a b) i b.length := by
  induction ys generalizing j r with
  | nil =>
    have hend : b.length = j := Nat.le_antisymm (List.drop_eq_nil_iff.mp hys) hj
    rw [hend] at h ⊢
    exact h
  | cons y ys ih =>
    obtain ⟨hy, hrest⟩ := of_drop_eq_cons hys
    have hlt : j < b.length := (List.getElem?_eq_some_iff.mp hy).1
    have hnext : inFront b (j + 1) = some y := hy
    rw [Rows.fill, h.entry_eq hx hy, ← hnext]
    exact ih (h.write hlt) hrest hlt

/-- **Row after row is filled**, until the last one. -/
theorem Holds.run {xs : List α} (h : r.Holds b.length (table same swaps a b) i)
    (hxs : a.drop i = xs) (hi : i ≤ a.length) :
    (r.run same swaps b i (inFront a i) xs).Holds b.length (table same swaps a b) a.length := by
  induction xs generalizing i r with
  | nil =>
    have hend : a.length = i := Nat.le_antisymm (List.drop_eq_nil_iff.mp hxs) hi
    rw [hend]
    exact h
  | cons x xs ih =>
    obtain ⟨hx, hrest⟩ := of_drop_eq_cons hxs
    have hlt : i < a.length := (List.getElem?_eq_some_iff.mp hx).1
    have hnext : inFront a (i + 1) = some x := hx
    have hzero := h.write_zero
    rw [table_zero_right] at hzero
    rw [Rows.run, ← hnext]
    exact ih (hzero.fill hx rfl (Nat.zero_le _)).rotate hrest hlt

/-- At the start the last row is that of the empty beginning. -/
theorem holds_start (same : α → α → Bool) (swaps : Bool) (a : List α) :
    (start b.length).Holds b.length (table same swaps a b) 0 where
  size_before := Array.size_replicate
  size_last := Array.size_range
  size_current := Array.size_replicate
  before k hk := absurd hk.symm (Nat.succ_ne_zero k)
  last j hj := by
    rw [table_zero_left, start, Array.getElem?_range, if_pos (Nat.lt_succ_of_le hj)]

end Rows

/-- **The count is the last entry of the full table.** -/
theorem count_eq_table (same : α → α → Bool) (swaps : Bool) (a b : List α) :
    count same swaps a b = table same swaps a b a.length b.length :=
  Rows.getD_of_getElem?
    (((Rows.holds_start same swaps a).run rfl (Nat.zero_le _)).last b.length (Nat.le_refl _))

end Edit

end CrashTriage
