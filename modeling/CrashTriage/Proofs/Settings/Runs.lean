import CrashTriage.Settings
import CrashTriage.Proofs.Shard.Equivalence

/-!
# From settings to a matrix

Settings that are built and changed by the functions for it always ask for a row and for a shard,
whatever was demanded in between and refused (`Settings.IsReached.isValid`). With such settings
nothing can go wrong on the way from a population to its matrix but what is wrong with the
population itself: **what comes out is the matrix that is computed as a whole, or the cause for
which there is none** (`Settings.IsValid.distances_eq`). Where the cause turns up tells it apart
(`Settings.RunError.ofComparison`): a population that is too small has no plan, and threads of
different kinds are found when the first shard is computed.

The number of shards is nowhere in it, and condensing the threads changes neither how many there are
nor of which kinds (`Settings.length_population`, `Settings.isUniform_population_iff`).
-/

namespace CrashTriage

namespace Settings

variable {s s' : Settings} {threads : List Thread} {n : Nat}

/-! ### Settings that are reached -/

theorem IsValid.withRows (h : s.IsValid) {rows : Option Nat} (hok : s.withRows rows = .ok s') :
    s'.IsValid := by
  unfold Settings.withRows at hok
  split at hok
  · exact absurd hok (by simp)
  · next hrows =>
    obtain rfl := Except.ok.inj hok
    exact ⟨hrows, h.2⟩

theorem IsValid.withShardCount (h : s.IsValid) {count : Nat}
    (hok : s.withShardCount count = .ok s') : s'.IsValid := by
  unfold Settings.withShardCount at hok
  split at hok
  · exact absurd hok (by simp)
  · next hcount =>
    obtain rfl := Except.ok.inj hok
    exact ⟨h.1, Nat.one_le_iff_ne_zero.mpr hcount⟩

/-- Settings can only be built with a row and a shard. -/
theorem isValid_of_make {metric : Metric} {rows shardCount : Option Nat} {condense : Bool}
    (hok : make metric rows shardCount condense = .ok s) : s.IsValid := by
  have hstart : IsValid { metric, condense } := ⟨by simp, Nat.le_refl 1⟩
  unfold make at hok
  rcases hrows : ({ metric, condense } : Settings).withRows rows with e | s₁
  · rw [hrows] at hok
    exact absurd hok (by simp [bind, Except.bind])
  · rw [hrows] at hok
    exact (hstart.withRows hrows).withShardCount hok

/-- **A demand does not make settings invalid**, refused or not. -/
theorem IsValid.changed (h : s.IsValid) (c : Change) : (s.changed c).IsValid := by
  unfold Settings.changed
  split
  · next s' hok =>
    cases c with
    | metric metric =>
      obtain rfl := Except.ok.inj hok
      exact h
    | rows rows => exact h.withRows hok
    | shardCount count => exact h.withShardCount hok
    | condense condense =>
      obtain rfl := Except.ok.inj hok
      exact h
  · exact h

/-- **Settings that are reached ask for a row and a shard.** -/
theorem IsReached.isValid (h : IsReached s) : s.IsValid := by
  induction h with
  | default => decide
  | make hok => exact isValid_of_make hok
  | changed h c ih => exact ih.changed c

/-! ### What valid settings demand -/

/-- Valid settings have a matrix for every population of two threads or more. -/
theorem IsValid.exists_clamp? (h : s.IsValid) (hn : 2 ≤ n) :
    ∃ shape, Shape.clamp? ⟨s.rowsFor n, n⟩ = some shape ∧ shape.columns = n := by
  refine ⟨_, Shape.clamp?_eq_some_iff.mpr ⟨?_, hn, rfl⟩, rfl⟩
  dsimp only
  rw [rowsFor]
  rcases hrows : s.rows with _ | rows
  · rw [Option.getD_none]
    omega
  · rw [Option.getD_some]
    exact Nat.one_le_iff_ne_zero.mpr fun hzero => h.1 (hzero ▸ hrows)

/-- No settings have one for fewer. -/
theorem clamp?_eq_none (s : Settings) (hn : n < 2) : Shape.clamp? ⟨s.rowsFor n, n⟩ = none := by
  rw [Shape.clamp?, if_pos (Or.inl hn)]

/-! ### Condensed populations -/

@[simp] theorem length_population (s : Settings) (threads : List Thread) :
    (s.population threads).length = threads.length := by
  unfold population
  split
  · exact List.length_map _
  · rfl

/-- **Condensing keeps the kinds of the threads.** -/
theorem isUniform_population_iff (s : Settings) :
    Population.IsUniform (s.population threads) ↔ Population.IsUniform threads := by
  unfold population
  split
  · exact exists_congr fun kind => List.forall_mem_map
  · exact Iff.rfl

/-! ### From a population to its matrix -/

/-- Without a plan there is no matrix. -/
theorem distances_eq_of_plan {e : ComparisonError}
    (hplan : Shard.plan ⟨s.rowsFor threads.length, threads.length⟩ s.metric s.shardCount
      = .error e) :
    s.distances threads = .error (.planning threads.length e) := by
  rw [← s.length_population threads] at hplan ⊢
  rw [distances, hplan]
  rfl

/-- Without the distances of all shards there is none either. -/
theorem distances_eq_of_compute {shards : List Shard} {e : ComparisonError}
    (hplan : Shard.plan ⟨s.rowsFor threads.length, threads.length⟩ s.metric s.shardCount
      = .ok shards)
    (hcompute : shards.mapM (·.compute (s.population threads)) = .error e) :
    s.distances threads = .error (.computing e) := by
  rw [← s.length_population threads] at hplan
  simp only [distances, hplan, Except.mapError, bind, Except.bind]
  rw [hcompute]

/-- With all of that, the shards are merged. -/
theorem distances_eq_of_merge {shards done : List Shard} {d : DistanceMatrix}
    (hplan : Shard.plan ⟨s.rowsFor threads.length, threads.length⟩ s.metric s.shardCount
      = .ok shards)
    (hcompute : shards.mapM (·.compute (s.population threads)) = .ok done)
    (hmerge : Shard.merge done = .ok d) : s.distances threads = .ok d := by
  rw [← s.length_population threads] at hplan
  simp only [distances, hplan, Except.mapError, bind, Except.bind]
  rw [hcompute]
  dsimp only
  rw [hmerge]

/-- Where a cause turns up for which a population has no matrix: an extent while the work is
planned, and anything else while a shard is computed. -/
def RunError.ofComparison (size : Nat) : ComparisonError → RunError
  | .invalidShape shape => .planning size (.invalidShape shape)
  | cause => .computing cause

/-- **The shards of a plan lead to the matrix of the population**, or to what is wrong with it. -/
theorem IsValid.distances_eq (h : s.IsValid) (threads : List Thread) :
    s.distances threads
      = (DistanceMatrix.ofPopulation (s.population threads)
          ⟨s.rowsFor threads.length, threads.length⟩ s.metric).mapError
        (RunError.ofComparison threads.length) := by
  have hlength := s.length_population threads
  rcases Nat.lt_or_ge threads.length 2 with hsmall | hsize
  · -- a population that is too small has no plan, and no matrix either
    have hdemand := s.clamp?_eq_none hsmall
    have hkinds := Population.isUniform_of_length_lt (hlength.trans_lt hsmall)
    have hplan : Shard.plan ⟨s.rowsFor threads.length, threads.length⟩ s.metric s.shardCount
        = .error (.invalidShape ⟨s.rowsFor threads.length, threads.length⟩) := by
      rw [Shard.plan, if_neg (Nat.one_le_iff_ne_zero.mp h.2), hdemand]
    rw [distances_eq_of_plan hplan,
      DistanceMatrix.ofPopulation_eq_error_of_clamp? s.metric hlength hkinds hdemand]
    rfl
  obtain ⟨shape, hdemand, hcolumns⟩ := h.exists_clamp? hsize
  have hshape := Shape.isProper_of_clamp? hdemand
  obtain ⟨planned, hplan, hadjacent, -⟩ := Shard.exists_plan hdemand s.metric h.2
  have htiles := hadjacent.tiles hshape
  rcases hkinds : Population.checkKinds (s.population threads) with e | ⟨⟩
  · -- threads of different kinds are found on both ways
    obtain ⟨expected, found, rfl⟩ := Population.eq_of_checkKinds_eq_error hkinds
    have hready : ∀ t ∈ planned,
        (s.population threads).length = t.shape.columns ∧ t.IsInside := fun t ht =>
      ⟨by rw [htiles.shape_eq t ht, hlength, hcolumns], htiles.inside t ht⟩
    rw [distances_eq_of_compute hplan
        (Shard.mapM_compute_eq_error (htiles.ne_nil hshape) hready hkinds),
      DistanceMatrix.ofPopulation_eq_error_of_checkKinds s.metric hlength hkinds]
    rfl
  · have hkinds := Population.checkKinds_eq_ok_iff.mp hkinds
    obtain ⟨d, hofPopulation, hd⟩ :=
      DistanceMatrix.holds_ofPopulation s.metric hdemand hlength hkinds
    obtain ⟨hcompute, hmerge⟩ := htiles.merge_computed hshape
      (fun t ht => (hadjacent.of_mem ht).2.1) (hlength.trans hcolumns.symm) hkinds hd
      (List.Perm.refl planned)
    rw [distances_eq_of_merge hplan hcompute (hmerge _ (List.Perm.refl _)), hofPopulation]
    rfl

/-- The matrix, where there is one, is that of the population. -/
theorem IsValid.distances_eq_ok_iff (h : s.IsValid) {d : DistanceMatrix} :
    s.distances threads = .ok d
      ↔ DistanceMatrix.ofPopulation (s.population threads)
          ⟨s.rowsFor threads.length, threads.length⟩ s.metric = .ok d := by
  rw [h.distances_eq]
  rcases DistanceMatrix.ofPopulation (s.population threads)
    ⟨s.rowsFor threads.length, threads.length⟩ s.metric with e | d'
  · exact iff_of_false (by simp [Except.mapError]) (by simp)
  · rw [Except.mapError, Except.ok.injEq, Except.ok.injEq]

/-- **Two threads of one kind are all it takes**, whatever the settings are. -/
theorem IsValid.exists_ofPopulation_iff (h : s.IsValid) :
    (∃ d, DistanceMatrix.ofPopulation (s.population threads)
        ⟨s.rowsFor threads.length, threads.length⟩ s.metric = .ok d)
      ↔ 2 ≤ threads.length ∧ Population.IsUniform threads := by
  have hlength := s.length_population threads
  rw [← s.isUniform_population_iff]
  constructor
  · rintro ⟨d, hok⟩
    obtain ⟨-, hkinds, shape, hdemand⟩ := DistanceMatrix.of_ofPopulation hok
    exact ⟨(Shape.clamp?_eq_some_iff.mp hdemand).2.1, hkinds⟩
  · rintro ⟨hsize, hkinds⟩
    obtain ⟨shape, hdemand, -⟩ := h.exists_clamp? hsize
    obtain ⟨d, hok, -⟩ := DistanceMatrix.holds_ofPopulation s.metric hdemand hlength hkinds
    exact ⟨d, hok⟩

end Settings

end CrashTriage
