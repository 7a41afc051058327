import CrashTriage.Proofs.Shard.Merging

/-!
# Computed shards

A shard can be computed over a population of the right size and of one kind, if its run lies inside
the matrix; and then nothing but its distances and its checksum changes
(`Shard.compute_eq_ok_iff`). Threads of different kinds are found by the first shard
(`Shard.mapM_compute_eq_error`). Since a run inside the matrix is never cut short, a computed shard
holds for **each place that it covers** the distance of the cell there
(`Shard.value?_computed`).

So it does not matter which shards a matrix is put together from: if all of them were computed over
one population, then what is merged is the matrix of that population
(`Shard.ofPopulation_of_merge`).
-/

namespace CrashTriage

namespace Shard

variable {threads : List Thread} {s s' : Shard}

/-- The shard with the distances of its cells in a population, and the checksum of that. -/
def computed (threads : List Thread) (s : Shard) : Shard :=
  s.restore (s.cells.map (Population.distance s.metric threads)) (Population.checksum threads)

@[simp] theorem computed_shape : (s.computed threads).shape = s.shape := rfl

@[simp] theorem computed_length : (s.computed threads).length = s.length := rfl

@[simp] theorem computed_metric : (s.computed threads).metric = s.metric := rfl

@[simp] theorem computed_start : (s.computed threads).start = s.start := rfl

@[simp] theorem computed_checksum :
    (s.computed threads).checksum = some (Population.checksum threads) := rfl

/-- **A shard can be computed** exactly if the population has the right size and is of one kind, and
the run lies inside the matrix. -/
theorem compute_eq_ok_iff :
    s.compute threads = .ok s'
      ↔ threads.length = s.shape.columns ∧ s.IsInside ∧ Population.IsUniform threads
        ∧ s' = s.computed threads := by
  rw [← Population.checkSize_eq_ok_iff, ← Population.checkKinds_eq_ok_iff, compute]
  rcases Population.checkSize threads s.shape.columns with e | ⟨⟩
  · simp [bind, Except.bind]
  · rcases hstart : s.start? with _ | p
    · have hout := start?_eq_none_iff.mp hstart
      simp [bind, Except.bind, hout]
    · have hin := (start?_eq_some_iff.mp hstart).1
      rcases Population.checkKinds threads with e | ⟨⟩
      · simp [bind, Except.bind]
      · simp [bind, Except.bind, pure, Except.pure, hin, computed, eq_comm]

/-- **Several shards are computed** one by one, in any order. -/
theorem mapM_compute {order : List Shard} (hkinds : Population.IsUniform threads)
    (horder : ∀ s ∈ order, threads.length = s.shape.columns ∧ s.IsInside) :
    order.mapM (·.compute threads) = .ok (order.map (computed threads)) := by
  induction order with
  | nil => rfl
  | cons s order ih =>
    obtain ⟨⟨hlength, hin⟩, horder⟩ := List.forall_mem_cons.mp horder
    rw [List.mapM_cons, compute_eq_ok_iff.mpr ⟨hlength, hin, hkinds, rfl⟩, ih horder]
    rfl

/-- A shard that has nothing wrong with it fails for the kinds of the threads alone. -/
theorem compute_eq_error {e : ComparisonError} (hlength : threads.length = s.shape.columns)
    (hin : s.IsInside) (hkinds : Population.checkKinds threads = .error e) :
    s.compute threads = .error e := by
  rw [compute, Population.checkSize_eq_ok_iff.mpr hlength, hin.start?_eq,
    hkinds]
  rfl

/-- **Threads of different kinds are found by the first shard.** -/
theorem mapM_compute_eq_error {shards : List Shard} {e : ComparisonError} (hne : shards ≠ [])
    (hready : ∀ s ∈ shards, threads.length = s.shape.columns ∧ s.IsInside)
    (hkinds : Population.checkKinds threads = .error e) :
    shards.mapM (·.compute threads) = .error e := by
  obtain ⟨s, rest, rfl⟩ := List.exists_cons_of_ne_nil hne
  obtain ⟨hlength, hin⟩ := hready s List.mem_cons_self
  rw [List.mapM_cons, compute_eq_error hlength hin hkinds]
  rfl

/-! ### What a computed shard holds -/

theorem IsInside.computed (h : s.IsInside) : (s.computed threads).IsInside where
  rows_lt := h.rows_lt
  first_mem := h.first_mem
  stop_le := h.stop_le

/-- No distance of a computed shard is missing. -/
theorem IsInside.isFilled_computed (h : s.IsInside) : (s.computed threads).IsFilled :=
  ⟨_, rfl, by rw [List.length_map, length_cells h, computed_length]⟩

/-- **A computed shard holds the distance of each cell that it covers.** -/
theorem value?_computed (h : s.IsInside) {c : Cell} (hc : c ∈ s.shape)
    (hcovers : s.Covers (c.position s.shape.columns)) :
    (s.computed threads).value? (c.position s.shape.columns)
      = some (Population.distance s.metric threads c) := by
  obtain ⟨hge, hlt⟩ := hcovers
  have hcell : s.cells[c.position s.shape.columns - s.start]? = some c :=
    (getElem?_cells h).mpr ⟨by omega, hc, by omega⟩
  rw [value?, computed_start, if_pos hge, computed, restore, Option.getD_some, List.getElem?_map,
    hcell, Option.map_some]

/-- **An exact cover of computed shards holds the distances of the population.** -/
theorem IsExactCover.cellValue_eq {shape : Shape} {metric : Metric} {checksum : UInt32}
    {shards : List Shard} (h : IsExactCover shape metric checksum shards)
    (hcomputed : ∀ s ∈ shards, ∃ s₀ : Shard, s₀.compute threads = .ok s) {c : Cell}
    (hc : c ∈ shape) : cellValue shape shards c = Population.distance metric threads c := by
  obtain ⟨s, hs, hcovers⟩ := h.tiles.complete _ (Shape.position_lt_cellCount h.isProper.2 hc)
  obtain ⟨s₀, hs₀⟩ := hcomputed s hs
  obtain ⟨-, hin, -, rfl⟩ := compute_eq_ok_iff.mp hs₀
  have hshape : s₀.shape = shape := h.tiles.shape_eq (s₀.computed threads) hs
  have hmetric : s₀.metric = metric := h.metric_eq (s₀.computed threads) hs
  subst hshape hmetric
  rw [cellValue, h.valueAt?_eq hs hcovers, value?_computed hin hc hcovers, Option.getD_some]

/-- **What is merged of computed shards is the matrix of the population.** -/
theorem ofPopulation_of_merge {shards : List Shard} {d : DistanceMatrix}
    (hcomputed : ∀ s ∈ shards, ∃ s₀ : Shard, s₀.compute threads = .ok s)
    (hok : merge shards = .ok d) :
    ∃ shape metric, shards ≠ [] ∧ (∀ s ∈ shards, s.shape = shape ∧ s.metric = metric)
      ∧ DistanceMatrix.ofPopulation threads shape metric = .ok d := by
  obtain ⟨shape, metric, checksum, h⟩ := isExactCover_of_merge hok
  have hne := h.tiles.ne_nil h.isProper
  refine ⟨shape, metric, hne, fun s hs => ⟨h.tiles.shape_eq s hs, h.metric_eq s hs⟩, ?_⟩
  obtain ⟨s, hs⟩ := List.exists_mem_of_ne_nil shards hne
  obtain ⟨s₀, hs₀⟩ := hcomputed s hs
  obtain ⟨hlength, -, hkinds, rfl⟩ := compute_eq_ok_iff.mp hs₀
  have hshape : s₀.shape = shape := h.tiles.shape_eq (s₀.computed threads) hs
  rw [hshape] at hlength
  obtain ⟨d', hok', hd'⟩ := DistanceMatrix.holds_ofPopulation metric
    (Shape.clamp?_of_isProper h.isProper) hlength hkinds
  have hd := (h.holds_of_merge hok).congr fun c hc => h.cellValue_eq hcomputed hc
  rw [hok', hd.eq hd']

end Shard

end CrashTriage
