import CrashTriage.Shard.Basic
import CrashTriage.Proofs.Matrix.Contents
import Mathlib.Data.List.Pairwise

/-!
# Shards that cover a matrix

A shard covers the places of its run, `Shard.length` of them from `Shard.start` on. A list of shards
can only be pieces of one matrix if the runs lie inside of it (`Shard.IsInside`), no two of them
meet, and together they leave no place out: they **tile** the matrix (`Shard.Tiles`). If they also
hold their distances, and agree on the metric and the population, they are an **exact cover**
(`Shard.IsExactCover`).

Neither property asks for an order of the shards, and in an exact cover every place has exactly one
distance (`Shard.IsExactCover.valueAt?_eq`).
-/

namespace CrashTriage

namespace Shard

variable {s : Shard} {p : Nat}

/-! ### The places of a run -/

/-- The place of the first cell of the run among the cells of the matrix. -/
def start (s : Shard) : Nat :=
  s.first.position s.shape.columns

/-- Whether a place belongs to the run. -/
def Covers (s : Shard) (p : Nat) : Prop :=
  s.start ≤ p ∧ p < s.start + s.length

instance (s : Shard) (p : Nat) : Decidable (s.Covers p) :=
  inferInstanceAs (Decidable (s.start ≤ p ∧ p < s.start + s.length))

/-- **The run lies inside the matrix**: it starts at a cell and ends with the sequence of the cells
at the latest. -/
structure IsInside (s : Shard) : Prop where
  /-- The extent leaves the last thread to be compared with. -/
  rows_lt : s.shape.rows < s.shape.columns
  /-- The run starts at a cell of the matrix. -/
  first_mem : s.first ∈ s.shape
  /-- The matrix has a cell for each place of the run. -/
  stop_le : s.start + s.length ≤ s.shape.cellCount

theorem start?_eq_some_iff : s.start? = some p ↔ s.IsInside ∧ p = s.start := by
  unfold start?
  split
  · next h =>
    dsimp only
    split
    · next hstop =>
      rw [Option.some.injEq]
      exact ⟨fun hp => ⟨⟨h.2, h.1, hstop⟩, hp.symm⟩, fun hp => hp.2.symm⟩
    · next hstop =>
      refine iff_of_false (by simp) ?_
      rintro ⟨hin, -⟩
      exact hstop hin.stop_le
  · next h =>
    refine iff_of_false (by simp) ?_
    rintro ⟨hin, -⟩
    exact h ⟨hin.first_mem, hin.rows_lt⟩

theorem IsInside.start?_eq (h : s.IsInside) : s.start? = some s.start :=
  start?_eq_some_iff.mpr ⟨h, rfl⟩

theorem start?_eq_none_iff : s.start? = none ↔ ¬s.IsInside := by
  rw [Option.eq_none_iff_forall_ne_some]
  constructor
  · intro h hin
    exact h s.start hin.start?_eq
  · intro h p hp
    exact h (start?_eq_some_iff.mp hp).1

theorem IsInside.isProper (h : s.IsInside) : s.shape.IsProper :=
  ⟨Nat.lt_of_le_of_lt (Nat.zero_le _) h.first_mem.1, h.rows_lt⟩

/-- **A run inside the matrix is never cut short.** -/
theorem length_cells (h : s.IsInside) : s.cells.length = s.length := by
  have hstop : s.first.position s.shape.columns + s.length ≤ s.shape.cellCount := h.stop_le
  rw [cells, Shape.length_run h.rows_lt h.first_mem]
  omega

theorem getElem?_cells (h : s.IsInside) {k : Nat} {c : Cell} :
    s.cells[k]? = some c
      ↔ k < s.length ∧ c ∈ s.shape ∧ c.position s.shape.columns = s.start + k :=
  Shape.getElem?_run h.rows_lt h.first_mem

/-! ### The distances of a run -/

/-- The distance that the shard holds for the cell at a place. -/
def value? (s : Shard) (p : Nat) : Option Float32 :=
  if s.start ≤ p then (s.distances.getD [])[p - s.start]? else none

/-- The distance for a place, from the first shard of the list that holds one. -/
def valueAt? (shards : List Shard) (p : Nat) : Option Float32 :=
  shards.findSome? (·.value? p)

/-- The shard holds a distance for each of its cells. -/
def IsFilled (s : Shard) : Prop :=
  ∃ distances, s.distances = some distances ∧ distances.length = s.length

theorem isSome_value?_iff (h : s.IsFilled) : (s.value? p).isSome ↔ s.Covers p := by
  obtain ⟨distances, hsome, hlength⟩ := h
  unfold value? Covers
  rw [hsome, Option.getD_some]
  split
  · simp only [isSome_getElem?, hlength]
    omega
  · simp only [Option.isSome_none, Bool.false_eq_true, false_iff]
    omega

/-- Shards that hold all their distances hold one for each place that one of them covers. -/
theorem isSome_valueAt?_iff {shards : List Shard} (h : ∀ s ∈ shards, s.IsFilled) :
    (valueAt? shards p).isSome ↔ ∃ s ∈ shards, s.Covers p := by
  rw [valueAt?, List.findSome?_isSome_iff]
  exact exists_congr fun s => and_congr_right fun hs => isSome_value?_iff (h s hs)

/-! ### Tilings -/

/-- The runs have no place in common. -/
def Apart (s t : Shard) : Prop :=
  ∀ p, ¬(s.Covers p ∧ t.Covers p)

theorem Apart.symm {s t : Shard} (h : s.Apart t) : t.Apart s :=
  fun p hp => h p hp.symm

/-- **The runs tile the matrix**: all of them lie inside of it, no two of them meet, and every
place is covered. -/
structure Tiles (shape : Shape) (shards : List Shard) : Prop where
  /-- All shards are of the matrix. -/
  shape_eq : ∀ s ∈ shards, s.shape = shape
  /-- All runs lie inside the matrix. -/
  inside : ∀ s ∈ shards, s.IsInside
  /-- No two runs meet. -/
  apart : shards.Pairwise Apart
  /-- Every place is covered. -/
  complete : ∀ p < shape.cellCount, ∃ s ∈ shards, s.Covers p

/-- **An exact cover**: the runs tile the matrix, and all shards hold the distances of their run,
for the same metric and the same population. -/
structure IsExactCover (shape : Shape) (metric : Metric) (checksum : UInt32)
    (shards : List Shard) : Prop where
  /-- A matrix can have the extent. -/
  isProper : shape.IsProper
  /-- The runs tile the matrix. -/
  tiles : Tiles shape shards
  /-- All distances are of this metric. -/
  metric_eq : ∀ s ∈ shards, s.metric = metric
  /-- All distances are of a population with this checksum. -/
  checksum_eq : ∀ s ∈ shards, s.checksum = some checksum
  /-- No distance is missing. -/
  filled : ∀ s ∈ shards, s.IsFilled

variable {shape : Shape} {metric : Metric} {checksum : UInt32} {shards shards' : List Shard}

/-- Tiling does not depend on the order. -/
theorem Tiles.perm (h : Tiles shape shards) (hperm : shards'.Perm shards) :
    Tiles shape shards' where
  shape_eq s hs := h.shape_eq s (hperm.mem_iff.mp hs)
  inside s hs := h.inside s (hperm.mem_iff.mp hs)
  apart := (hperm.pairwise_iff Apart.symm).mpr h.apart
  complete p hp := by
    obtain ⟨s, hs, hcovers⟩ := h.complete p hp
    exact ⟨s, hperm.mem_iff.mpr hs, hcovers⟩

/-- **An exact cover remains one in any order.** -/
theorem IsExactCover.perm (h : IsExactCover shape metric checksum shards)
    (hperm : shards'.Perm shards) : IsExactCover shape metric checksum shards' where
  isProper := h.isProper
  tiles := h.tiles.perm hperm
  metric_eq s hs := h.metric_eq s (hperm.mem_iff.mp hs)
  checksum_eq s hs := h.checksum_eq s (hperm.mem_iff.mp hs)
  filled s hs := h.filled s (hperm.mem_iff.mp hs)

/-- A tiling has a shard, since a matrix has a cell. -/
theorem Tiles.ne_nil (hshape : shape.IsProper) (h : Tiles shape shards) : shards ≠ [] := by
  rintro rfl
  obtain ⟨s, hs, -⟩ := h.complete 0 (Shape.cellCount_pos hshape)
  exact absurd hs List.not_mem_nil

/-- **A place is covered once**: of two shards at different positions of the list, at most one
covers it. -/
theorem Tiles.index_unique (h : Tiles shape shards) {i k : Nat} {s t : Shard}
    (hs : shards[i]? = some s) (ht : shards[k]? = some t) (hsp : s.Covers p) (htp : t.Covers p) :
    i = k := by
  obtain ⟨hi, rfl⟩ := List.getElem?_eq_some_iff.mp hs
  obtain ⟨hk, rfl⟩ := List.getElem?_eq_some_iff.mp ht
  have hpair := List.pairwise_iff_getElem.mp h.apart
  rcases Nat.lt_trichotomy i k with hlt | heq | hgt
  · exact absurd ⟨hsp, htp⟩ (hpair i k hi hk hlt p)
  · exact heq
  · exact absurd ⟨htp, hsp⟩ (hpair k i hk hi hgt p)

/-- **The distance for a place is that of the shard that covers it**, wherever in the list that
shard is. -/
theorem IsExactCover.valueAt?_eq (h : IsExactCover shape metric checksum shards) {s : Shard}
    (hs : s ∈ shards) (hp : s.Covers p) : valueAt? shards p = s.value? p := by
  obtain ⟨x, hx⟩ := Option.isSome_iff_exists.mp ((isSome_value?_iff (h.filled s hs)).mpr hp)
  rcases hfound : valueAt? shards p with _ | y
  · have hnone := List.findSome?_eq_none_iff.mp hfound s hs
    rw [hx] at hnone
    exact absurd hnone (by simp)
  · -- the shard that is found covers the place as well, so it is the same one
    obtain ⟨t, ht, hty⟩ := List.exists_of_findSome?_eq_some hfound
    have htp : t.Covers p := (isSome_value?_iff (h.filled t ht)).mp (by rw [hty]; rfl)
    obtain ⟨i, hi⟩ := List.mem_iff_getElem?.mp hs
    obtain ⟨k, hk⟩ := List.mem_iff_getElem?.mp ht
    have hik := h.tiles.index_unique hi hk hp htp
    rw [hik, hk] at hi
    obtain rfl := Option.some.inj hi
    exact hty.symm

/-- In an exact cover every place of the matrix has a distance. -/
theorem IsExactCover.isSome_valueAt? (h : IsExactCover shape metric checksum shards)
    (hp : p < shape.cellCount) : (valueAt? shards p).isSome :=
  (isSome_valueAt?_iff h.filled).mpr (h.tiles.complete p hp)

/-- **The distances of an exact cover do not depend on the order.** -/
theorem IsExactCover.valueAt?_perm (h : IsExactCover shape metric checksum shards)
    (hperm : shards'.Perm shards) (hp : p < shape.cellCount) :
    valueAt? shards' p = valueAt? shards p := by
  obtain ⟨s, hs, hcovers⟩ := h.tiles.complete p hp
  rw [h.valueAt?_eq hs hcovers, (h.perm hperm).valueAt?_eq (hperm.mem_iff.mpr hs) hcovers]

end Shard

end CrashTriage
