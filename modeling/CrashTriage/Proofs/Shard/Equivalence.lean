import CrashTriage.Proofs.Shard.Computing
import CrashTriage.Proofs.Shard.Planning

/-!
# Computing a matrix in shards

The matrix of a population can be computed as a whole, or planned in shards, computed shard by shard
and merged. **Both ways lead to the same matrix**, slot by slot: a plan tiles the matrix
(`Shard.exists_plan`), so its computed shards are an exact cover, in whichever order they were
computed and handed back (`Shard.isExactCover_of_computed`); and what is merged of computed shards
is the matrix of the population, wherever the shards come from (`Shard.ofPopulation_of_merge`).
-/

namespace CrashTriage

namespace Shard

variable {threads : List Thread} {shape : Shape} {metric : Metric} {shards : List Shard}

/-- Two runs that do not meet do not meet after they are computed. -/
theorem Apart.computed {s t : Shard} (h : s.Apart t) :
    (s.computed threads).Apart (t.computed threads) :=
  h

/-- **The computed shards of a tiling are an exact cover.** -/
theorem isExactCover_of_computed (threads : List Thread) (hshape : shape.IsProper)
    (htiles : Tiles shape shards) (hmetric : ∀ s ∈ shards, s.metric = metric) :
    IsExactCover shape metric (Population.checksum threads) (shards.map (computed threads)) where
  isProper := hshape
  tiles := by
    refine ⟨?_, ?_, ?_, ?_⟩
    · exact List.forall_mem_map.mpr htiles.shape_eq
    · exact List.forall_mem_map.mpr fun s hs => (htiles.inside s hs).computed
    · exact List.pairwise_map.mpr (htiles.apart.imp Apart.computed)
    · intro p hp
      obtain ⟨s, hs, hcovers⟩ := htiles.complete p hp
      exact ⟨s.computed threads, List.mem_map_of_mem hs, hcovers⟩
  metric_eq := List.forall_mem_map.mpr hmetric
  checksum_eq := List.forall_mem_map.mpr fun _ _ => rfl
  filled := List.forall_mem_map.mpr fun s hs => (htiles.inside s hs).isFilled_computed

/-- **A tiling is computed and merged to the matrix of the population**, whatever the order of
computing and of merging. -/
theorem Tiles.merge_computed {d : DistanceMatrix} (hshape : shape.IsProper)
    (htiles : Tiles shape shards) (hmetric : ∀ s ∈ shards, s.metric = metric)
    (hlength : threads.length = shape.columns) (hkinds : Population.IsUniform threads)
    (hd : d.Holds shape (Population.distance metric threads)) {order : List Shard}
    (horder : order.Perm shards) :
    order.mapM (·.compute threads) = .ok (order.map (computed threads))
      ∧ ∀ shards', shards'.Perm (order.map (computed threads)) → merge shards' = .ok d := by
  have htiles := htiles.perm horder
  have hmetric : ∀ s ∈ order, s.metric = metric := fun s hs => hmetric s (horder.mem_iff.mp hs)
  have hready : ∀ s ∈ order, threads.length = s.shape.columns ∧ s.IsInside := fun s hs =>
    ⟨by rw [htiles.shape_eq s hs, hlength], htiles.inside s hs⟩
  refine ⟨mapM_compute hkinds hready, fun shards' hperm => ?_⟩
  have hcover := isExactCover_of_computed threads hshape htiles hmetric
  obtain ⟨d', hok, hd'⟩ := hcover.merge
  have hcomputed : ∀ s ∈ order.map (computed threads), ∃ s₀ : Shard, s₀.compute threads = .ok s :=
    List.forall_mem_map.mpr fun s hs =>
      ⟨s, compute_eq_ok_iff.mpr ⟨(hready s hs).1, (hready s hs).2, hkinds, rfl⟩⟩
  -- both matrices hold the distances of the population, so they are the same
  have hvalues := hd'.congr fun c hc => hcover.cellValue_eq hcomputed hc
  rw [← hvalues.eq hd]
  exact merge_perm hok hperm

/-- **Merging computed shards gives the matrix of the population.** First, every plan over a
population of one kind is computed without failure, in any order, and the computed shards can be
merged, in any order, to the matrix that is computed as a whole. Second, whenever computed shards
can be merged at all – of one plan, of several, or of none – they are of one extent and one metric,
and what comes out is the matrix of the population for these. -/
theorem merge_eq_ofPopulation (threads : List Thread) :
    (∀ (rows count : Nat) (metric : Metric), Population.IsUniform threads →
        2 ≤ threads.length → 1 ≤ rows → 1 ≤ count →
        ∃ planned d, plan ⟨rows, threads.length⟩ metric count = .ok planned
          ∧ DistanceMatrix.ofPopulation threads ⟨rows, threads.length⟩ metric = .ok d
          ∧ ∀ order : List Shard, order.Perm planned →
            ∃ done, order.mapM (·.compute threads) = .ok done
              ∧ ∀ shards, shards.Perm done → merge shards = .ok d)
      ∧ ∀ (shards : List Shard) (d : DistanceMatrix),
        (∀ s ∈ shards, ∃ s₀ : Shard, s₀.compute threads = .ok s) → merge shards = .ok d →
        ∃ shape metric, shards ≠ [] ∧ (∀ s ∈ shards, s.shape = shape ∧ s.metric = metric)
          ∧ DistanceMatrix.ofPopulation threads shape metric = .ok d := by
  refine ⟨fun rows count metric hkinds hsize hrows hcount => ?_,
    fun shards d hcomputed hok => ofPopulation_of_merge hcomputed hok⟩
  -- the demand may ask for more rows than there are
  obtain ⟨shape, hdemand, hcolumns⟩ : ∃ shape : Shape,
      Shape.clamp? ⟨rows, threads.length⟩ = some shape ∧ shape.columns = threads.length :=
    ⟨_, Shape.clamp?_eq_some_iff.mpr ⟨hrows, hsize, rfl⟩, rfl⟩
  have hshape := Shape.isProper_of_clamp? hdemand
  obtain ⟨planned, hplan, hadjacent, -⟩ := exists_plan hdemand metric hcount
  obtain ⟨d, hofPopulation, hd⟩ :=
    DistanceMatrix.holds_ofPopulation metric hdemand rfl hkinds
  refine ⟨planned, d, hplan, hofPopulation, fun order horder =>
    ⟨order.map (computed threads), ?_⟩⟩
  exact (hadjacent.tiles hshape).merge_computed hshape (fun s hs => (hadjacent.of_mem hs).2.1)
    hcolumns.symm hkinds hd horder

/-- Three crashes, of which two are compared with the others, in two shards of which the second is
computed first. -/
theorem merge_eq_ofPopulation_three_crashes :
    let threads : List Thread :=
      [⟨0, .debugger, [.ofDebuggerSymbol (.named "read"), .ofDebuggerSymbol (.named "main")]⟩,
        ⟨1, .debugger, [.ofDebuggerSymbol .unknown, .ofDebuggerSymbol (.named "main")]⟩,
        ⟨2, .debugger, [.ofDebuggerSymbol (.named "main")]⟩]
    ∃ planned d, plan ⟨2, 3⟩ .edits 2 = .ok planned
      ∧ DistanceMatrix.ofPopulation threads ⟨2, 3⟩ .edits = .ok d
      ∧ ∃ done, planned.reverse.mapM (·.compute threads) = .ok done ∧ merge done = .ok d := by
  intro threads
  obtain ⟨planned, d, hplan, hofPopulation, h⟩ := (merge_eq_ofPopulation threads).1 2 2 .edits
    ⟨.debugger, by decide⟩ (by decide) (by decide) (by decide)
  obtain ⟨done, hdone, hmerge⟩ := h _ planned.reverse_perm
  exact ⟨planned, d, hplan, hofPopulation, done, hdone, hmerge done (List.Perm.refl done)⟩

end Shard

end CrashTriage
