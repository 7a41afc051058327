import CrashTriage.Proofs.Grid.RowMajor
import CrashTriage.Proofs.Shard.Planning

/-!
# Balanced plans

A plan divides the cells of a matrix as evenly as can be (`Shard.IsBalanced`): there are as many
shards as asked for, or one for each cell; their lengths differ by one at most, the longer ones
first; and **one behind the other their runs are the cells of the matrix, row by row**
(`Shard.Adjacent.flatMap_cells`).

There is a plan for every demand of a row, two threads and a shard. Otherwise the demand is refused
before a run is looked for, and no run is ever looked for at a place without a cell
(`Shard.plan_eq_error_iff`).
-/

namespace CrashTriage

namespace Shard

variable {shape demand : Shape} {metric : Metric} {count total p q : Nat} {shards : List Shard}

/-! ### Even lengths -/

/-- **No length is smaller than one behind it.** -/
theorem pairwise_runLengths (total count : Nat) :
    (runLengths total count).Pairwise fun length length' => length' ≤ length := by
  refine List.pairwise_map.mpr (List.pairwise_lt_range.imp fun {i k} hik => ?_)
  split <;> split <;> omega

/-- **Two lengths differ by one at most.** -/
theorem le_add_one_of_mem_runLengths {length length' : Nat} (h : length ∈ runLengths total count)
    (h' : length' ∈ runLengths total count) : length ≤ length' + 1 := by
  obtain ⟨i, -, rfl⟩ := List.mem_map.mp h
  obtain ⟨k, -, rfl⟩ := List.mem_map.mp h'
  split <;> split <;> omega

/-! ### The cells of adjacent runs -/

namespace Adjacent

theorem length_pos (h : Adjacent shape metric p shards q) {s : Shard} (hs : s ∈ shards) :
    0 < s.length := by
  induction h with
  | nil p => exact absurd hs List.not_mem_nil
  | cons hshape hmetric hfirst hstart hlength htail ih =>
    rcases List.mem_cons.mp hs with rfl | hs
    · exact hlength
    · exact ih hs

theorem isInside (hshape : shape.IsProper) (h : Adjacent shape metric p shards q)
    (hq : q ≤ shape.cellCount) {s : Shard} (hs : s ∈ shards) : s.IsInside := by
  obtain ⟨rfl, -, hfirst, -, hstop⟩ := h.of_mem hs
  exact ⟨hshape.2, hfirst, hstop.trans hq⟩

/-- The cells of runs that follow each other take all places in between, in order. -/
theorem map_position_flatMap_cells (hshape : shape.IsProper)
    (h : Adjacent shape metric p shards q) (hq : q ≤ shape.cellCount) :
    (shards.flatMap cells).map (Cell.position shape.columns) = List.range' p (q - p) := by
  induction h with
  | nil p => simp
  | @cons s p q shards hs hmetric hfirst hstart hlength htail ih =>
    subst hs hstart
    have hstop := htail.le
    -- the run is not cut short, since the runs behind it are inside as well
    have hmin : min s.length (s.shape.cellCount - s.first.position s.shape.columns) = s.length :=
      Nat.min_eq_left (Nat.le_sub_of_add_le' (hstop.trans hq))
    have hsplit : q - s.start = s.length + (q - (s.start + s.length)) := by omega
    rw [List.flatMap_cons, List.map_append, ih hq, cells,
      Shape.map_position_run hshape.2 hfirst, hmin, hsplit]
    exact List.range'_append_1

/-- **Runs that follow each other over all places are the cells of the matrix**, row by row. -/
theorem flatMap_cells (hshape : shape.IsProper)
    (h : Adjacent shape metric 0 shards shape.cellCount) :
    shards.flatMap cells = shape.rowMajor := by
  refine Shape.eq_of_map_position_eq (s := shape) (fun c hc => ?_)
    (fun c hc => Shape.mem_rowMajor_iff.mp hc) ?_
  · obtain ⟨s, hs, hc⟩ := List.mem_flatMap.mp hc
    obtain ⟨rfl, -, hfirst, -⟩ := h.of_mem hs
    exact Shape.mem_of_mem_run hshape.2 hfirst hc
  · rw [h.map_position_flatMap_cells hshape (Nat.le_refl _), Shape.map_position_rowMajor hshape.2,
      Nat.sub_zero]

end Adjacent

/-! ### Plans -/

/-- **The shards of a matrix are balanced**: they divide its cells as evenly as can be. -/
structure IsBalanced (shape : Shape) (metric : Metric) (count : Nat) (shards : List Shard) :
    Prop where
  /-- There are as many shards as asked for, or one for each cell. -/
  length_eq : shards.length = min count shape.cellCount
  /-- All shards are of the matrix. -/
  shape_eq : ∀ s ∈ shards, s.shape = shape
  /-- All shards are for the metric. -/
  metric_eq : ∀ s ∈ shards, s.metric = metric
  /-- No run is empty. -/
  length_pos : ∀ s ∈ shards, 1 ≤ s.length
  /-- Every run starts at a cell of the matrix. -/
  first_mem : ∀ s ∈ shards, s.first ∈ shape
  /-- Every run lies inside the matrix. -/
  start?_eq : ∀ s ∈ shards, s.start? = some (s.first.position shape.columns)
  /-- The longer runs come first. -/
  pairwise_length : shards.Pairwise fun s t => t.length ≤ s.length
  /-- Two lengths differ by one at most. -/
  length_le : ∀ s ∈ shards, ∀ t ∈ shards, s.length ≤ t.length + 1
  /-- No run is cut short. -/
  length_cells : ∀ s ∈ shards, s.cells.length = s.length
  /-- Together the runs are the cells of the matrix, row by row. -/
  flatMap_cells : shards.flatMap cells = shape.rowMajor
  /-- No cell is left out. -/
  mem_cells_iff : ∀ c, c ∈ shards.flatMap cells ↔ c ∈ shape
  /-- No cell comes twice. -/
  nodup_cells : (shards.flatMap cells).Nodup

/-- **Adjacent runs of even lengths are balanced.** -/
theorem Adjacent.isBalanced (hshape : shape.IsProper)
    (h : Adjacent shape metric 0 shards shape.cellCount)
    (hlengths : shards.map (·.length) = runLengths shape.cellCount (min count shape.cellCount)) :
    IsBalanced shape metric count shards := by
  have hinside : ∀ s ∈ shards, s.IsInside := fun s hs => h.isInside hshape (Nat.le_refl _) hs
  have hmem : ∀ s ∈ shards, s.length ∈ runLengths shape.cellCount (min count shape.cellCount) :=
    fun s hs => hlengths ▸ List.mem_map_of_mem hs
  have hcells := h.flatMap_cells hshape
  refine ⟨?_, fun s hs => (h.of_mem hs).1, fun s hs => (h.of_mem hs).2.1,
    fun s hs => h.length_pos hs, fun s hs => (h.of_mem hs).2.2.1, fun s hs => ?_, ?_,
    fun s hs t ht => le_add_one_of_mem_runLengths (hmem s hs) (hmem t ht),
    fun s hs => Shard.length_cells (hinside s hs), hcells, fun c => ?_, ?_⟩
  · have hlength := congrArg List.length hlengths
    rwa [List.length_map, length_runLengths] at hlength
  · obtain ⟨rfl, -⟩ := h.of_mem hs
    exact (hinside s hs).start?_eq
  · have hpairwise := pairwise_runLengths shape.cellCount (min count shape.cellCount)
    rw [← hlengths] at hpairwise
    exact List.pairwise_map.mp hpairwise
  · rw [hcells]
    exact Shape.mem_rowMajor_iff
  · rw [hcells]
    exact Shape.nodup_rowMajor hshape.2

/-- **Only the demand can be at fault** when there is no plan. -/
theorem plan_eq_error_iff {e : ComparisonError} :
    plan demand metric count = .error e
      ↔ (count = 0 ∧ e = .noShards)
        ∨ (1 ≤ count ∧ demand.clamp? = none ∧ e = .invalidShape demand) := by
  rcases Nat.eq_zero_or_pos count with rfl | hcount
  · simp [plan, eq_comm]
  have hne : count ≠ 0 := Nat.ne_of_gt hcount
  rcases hdemand : demand.clamp? with _ | shape
  · simp [plan, hdemand, hne, Nat.one_le_iff_ne_zero, eq_comm]
  · obtain ⟨shards, hok, -⟩ := exists_plan hdemand metric hcount
    simp [hok, hne]

/-- **A plan is balanced**, for the extent that the demand is cut down to. -/
theorem isBalanced_of_plan (hok : plan demand metric count = .ok shards) :
    1 ≤ count ∧ ∃ shape, demand.clamp? = some shape ∧ IsBalanced shape metric count shards := by
  rcases Nat.eq_zero_or_pos count with rfl | hcount
  · rw [plan_eq_error_iff.mpr (Or.inl ⟨rfl, rfl⟩)] at hok
    exact absurd hok (by simp)
  rcases hdemand : demand.clamp? with _ | shape
  · rw [plan_eq_error_iff.mpr (Or.inr ⟨hcount, hdemand, rfl⟩)] at hok
    exact absurd hok (by simp)
  · obtain ⟨planned, hplan, hadjacent, hlengths⟩ := exists_plan hdemand metric hcount
    rw [hok] at hplan
    obtain rfl := Except.ok.inj hplan
    exact ⟨hcount, shape, rfl, hadjacent.isBalanced (Shape.isProper_of_clamp? hdemand) hlengths⟩

/-- **Every plan is balanced**, and there is one exactly for a demand of at least one shard, one row
and two threads. The rows are cut down to those that have a cell. No run of a plan is ever looked
for outside of the matrix. -/
theorem plan_isBalanced (demand : Shape) (metric : Metric) (count : Nat) :
    ((∃ shards, plan demand metric count = .ok shards)
        ↔ 1 ≤ count ∧ 1 ≤ demand.rows ∧ 2 ≤ demand.columns)
      ∧ (∀ shards, plan demand metric count = .ok shards →
          IsBalanced ⟨min demand.rows (demand.columns - 1), demand.columns⟩ metric count shards)
      ∧ ∀ c s, plan demand metric count ≠ .error (.outOfRange c s) := by
  refine ⟨⟨?_, ?_⟩, fun shards hok => ?_, fun c s herror => ?_⟩
  · rintro ⟨shards, hok⟩
    obtain ⟨hcount, shape, hdemand, -⟩ := isBalanced_of_plan hok
    obtain ⟨hrows, hcolumns, -⟩ := Shape.clamp?_eq_some_iff.mp hdemand
    exact ⟨hcount, hrows, hcolumns⟩
  · rintro ⟨hcount, hrows, hcolumns⟩
    obtain ⟨shards, hok, -⟩ :=
      exists_plan (Shape.clamp?_eq_some_iff.mpr ⟨hrows, hcolumns, rfl⟩) metric hcount
    exact ⟨shards, hok⟩
  · obtain ⟨-, shape, hdemand, hbalanced⟩ := isBalanced_of_plan hok
    obtain ⟨-, -, rfl⟩ := Shape.clamp?_eq_some_iff.mp hdemand
    exact hbalanced
  · rcases plan_eq_error_iff.mp herror with ⟨-, he⟩ | ⟨-, -, he⟩ <;> exact absurd he (by simp)

/-- Four shards for the six cells of a demand of more rows than there are. The second shard starts
at the end of a row and goes on in the next one. -/
theorem plan_isBalanced_four_shards :
    let shards : List Shard :=
      [⟨⟨3, 4⟩, ⟨0, 1⟩, 2, .jaccard, none, none⟩, ⟨⟨3, 4⟩, ⟨0, 3⟩, 2, .jaccard, none, none⟩,
        ⟨⟨3, 4⟩, ⟨1, 3⟩, 1, .jaccard, none, none⟩, ⟨⟨3, 4⟩, ⟨2, 3⟩, 1, .jaccard, none, none⟩]
    plan ⟨5, 4⟩ .jaccard 4 = .ok shards
      ∧ shards.flatMap cells = [⟨0, 1⟩, ⟨0, 2⟩, ⟨0, 3⟩, ⟨1, 2⟩, ⟨1, 3⟩, ⟨2, 3⟩] := by
  intro shards
  have hok : plan ⟨5, 4⟩ .jaccard 4 = .ok shards := rfl
  exact ⟨hok, ((plan_isBalanced ⟨5, 4⟩ .jaccard 4).2.1 shards hok).flatMap_cells⟩

end Shard

end CrashTriage
