import CrashTriage.Proofs.Matrix.Words
import CrashTriage.Proofs.Shard.Merging

/-!
# Merging and how cells are counted

While shards are merged, cells are counted twice over: their places, to tell what is covered, and
their slots, to put the distances there. All of this is about **the one matrix that is assembled**,
whose extent never changes (`Assembly.shape_of_addAll`) and is told by the first shard
(`exists_clamp?_of_merge`). So if its cells and slots are counted exactly, merging is the same as with
exact counting (`merge_of_isExactOn`), whatever the extents of the other shards are: a shard of
another extent is refused before any of its cells is counted.

With words this is so if one can hold the square of the size of the population (`merge_words`).
-/

namespace CrashTriage

namespace Shard

variable {ix : Indexing}

theorem start?_of_isExactOn {s : Shard} (hix : ix.IsExactOn s.shape) : s.start? ix = s.start? := by
  by_cases hfirst : s.first ∈ s.shape
  · simp only [start?, hix.cellCount_eq, hix.position_eq _ hfirst]
  · simp only [start?, hfirst, false_and, if_false]

namespace Assembly

variable {asm asm' : Assembly} {model : Shard} {checksum : UInt32} {index position : Nat}
  {items : List (Cell × Float32)} {s : Shard} {shards : List Shard}

/-! ### The extent -/

theorem exists_start (ix : Indexing) {demand shape : Shape} (hdemand : demand.clamp? = some shape) :
    ∃ asm, start demand ix = .ok asm ∧ asm.matrix.shape = shape :=
  ⟨_, by rw [start, DistanceMatrix.zero, hdemand], rfl⟩

theorem shape_of_addCells (hok : asm.addCells index items position ix = .ok asm') :
    asm'.matrix.shape = asm.matrix.shape := by
  induction items generalizing asm position with
  | nil =>
    obtain rfl := Except.ok.inj hok
    rfl
  | cons item items ih =>
    rw [addCells] at hok
    split at hok
    · exact absurd hok (by simp)
    · split at hok
      · exact absurd hok (by simp)
      · next d hset => exact (ih hok).trans (DistanceMatrix.shape_of_set hset)

theorem shape_of_add (hok : asm.add model checksum index s ix = .ok asm') :
    asm'.matrix.shape = asm.matrix.shape := by
  unfold add at hok
  -- every branch refuses the shard, but for the one that adds its cells
  repeat' split at hok
  all_goals first
    | exact shape_of_addCells hok
    | exact absurd hok (by simp)

theorem shape_of_addAll (hok : asm.addAll model checksum index shards ix = .ok asm') :
    asm'.matrix.shape = asm.matrix.shape := by
  induction shards generalizing asm index with
  | nil =>
    obtain rfl := Except.ok.inj hok
    rfl
  | cons s shards ih =>
    rcases hadd : asm.add model checksum index s ix with e | asm₁
    · rw [addAll_cons_error hadd] at hok
      exact absurd hok (by simp)
    · rw [addAll_cons hadd] at hok
      exact (ih hok).trans (shape_of_add hadd)

/-! ### Exact counting -/

theorem start_of_isExactOn {demand shape : Shape} (hdemand : demand.clamp? = some shape)
    (hix : ix.IsExactOn shape) : start demand ix = start demand := by
  rw [start, start, DistanceMatrix.zero_of_isExactOn hdemand hix, DistanceMatrix.zero, hdemand]
  dsimp only
  rw [hix.cellCount_eq]

theorem addCells_of_isExactOn (hix : ix.IsExactOn asm.matrix.shape) :
    asm.addCells index items position ix = asm.addCells index items position := by
  induction items generalizing asm position with
  | nil => rfl
  | cons item items ih =>
    rw [addCells, addCells, DistanceMatrix.set_of_isExactOn hix]
    split
    · rfl
    · split
      · rfl
      · next d hset => exact ih ((DistanceMatrix.shape_of_set hset).symm ▸ hix)

/-- The cells of a shard are counted only if it has the extent of the matrix. -/
theorem add_of_isExactOn (hix : ix.IsExactOn asm.matrix.shape) :
    asm.add model checksum index s ix = asm.add model checksum index s := by
  by_cases hshape : s.shape = asm.matrix.shape
  · simp only [add, start?_of_isExactOn (hshape.symm ▸ hix), addCells_of_isExactOn hix]
  · simp only [add, ne_eq, hshape, not_false_eq_true, if_true]

theorem addAll_of_isExactOn (hix : ix.IsExactOn asm.matrix.shape) :
    asm.addAll model checksum index shards ix = asm.addAll model checksum index shards := by
  induction shards generalizing asm index with
  | nil => rfl
  | cons s shards ih =>
    rcases hadd : asm.add model checksum index s with e | asm₁
    · rw [addAll_cons_error hadd, addAll_cons_error ((add_of_isExactOn hix).trans hadd)]
    · rw [addAll_cons hadd, addAll_cons ((add_of_isExactOn hix).trans hadd)]
      exact ih ((shape_of_add hadd).symm ▸ hix)

end Assembly

variable {model : Shard} {shards : List Shard} {d : DistanceMatrix}

/-- **A merged matrix has the extent of the first shard**, or what is left of it if that asks for
too many rows. -/
theorem exists_clamp?_of_merge (hok : merge shards ix = .ok d) :
    ∃ model rest, shards = model :: rest ∧ model.shape.clamp? = some d.shape := by
  rcases shards with _ | ⟨model, rest⟩
  · exact absurd hok (by simp [merge])
  rcases hchecksum : model.checksum with _ | checksum
  · rw [merge_cons_of_checksum_eq_none hchecksum] at hok
    exact absurd hok (by simp)
  rcases hclamp : model.shape.clamp? with _ | shape
  · rw [merge_cons_of_clamp?_eq_none hchecksum hclamp] at hok
    exact absurd hok (by simp)
  obtain ⟨empty, hstart, hempty⟩ := Assembly.exists_start ix hclamp
  rw [merge_cons hchecksum hstart] at hok
  rcases hadd : empty.addAll model checksum 0 (model :: rest) ix with e | asm
  · rw [hadd] at hok
    exact absurd hok (by simp [Except.bind])
  · rw [hadd] at hok
    refine ⟨model, rest, rfl, ?_⟩
    rw [← Assembly.matrix_of_finish hok, Assembly.shape_of_addAll hadd, hempty, hclamp]

/-- **If the cells of the assembled matrix are counted exactly, so is all else.** -/
theorem merge_of_isExactOn (hix : ∀ s, model.shape.clamp? = some s → ix.IsExactOn s) :
    merge (model :: shards) ix = merge (model :: shards) := by
  rcases hchecksum : model.checksum with _ | checksum
  · rw [merge_cons_of_checksum_eq_none hchecksum, merge_cons_of_checksum_eq_none hchecksum]
  · rcases hclamp : model.shape.clamp? with _ | shape
    · rw [merge_cons_of_clamp?_eq_none hchecksum hclamp,
        merge_cons_of_clamp?_eq_none hchecksum hclamp]
    · obtain ⟨empty, hstart, hempty⟩ := Assembly.holds_start hclamp
      have hix := hix shape hclamp
      rw [merge_cons hchecksum hstart,
        merge_cons hchecksum ((Assembly.start_of_isExactOn hclamp hix).trans hstart),
        Assembly.addAll_of_isExactOn (hempty.matrix.shape_eq.symm ▸ hix)]

/-- **Shards of a small matrix are merged in words as they are with exact counting.** -/
theorem merge_words (hwords : model.shape.columns * model.shape.columns < 2 ^ 64) :
    merge (model :: shards) .words = merge (model :: shards) := by
  refine merge_of_isExactOn fun s hs => ?_
  have hcolumns : s.columns = model.shape.columns := Shape.columns_of_clamp? hs
  exact Indexing.isExactOn_words (Shape.isProper_of_clamp? hs) (hcolumns ▸ hwords)

end Shard

end CrashTriage
