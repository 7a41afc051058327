import CrashTriage.Shard.Plan
import CrashTriage.Proofs.Shard.Cover
import Mathlib.Algebra.BigOperators.Group.List.Basic

/-!
# Planned shards

The shards of a plan follow each other from the first place of the matrix to the last one, without
a gap and without an empty run (`Shard.Adjacent`). The lengths are spread out over as many shards as
were asked for, or one for each cell (`Shard.sum_runLengths`, `Shard.pos_of_mem_runLengths`), and a
run that follows such runs starts at a place of the matrix, so the search for its first cell finds
one (`Shard.consecutive_adjacent`).

Adjacent runs from the first place to the last **tile the matrix** (`Shard.Adjacent.tiles`), so
every plan does (`Shard.exists_plan`).
-/

namespace CrashTriage

namespace Shard

/-! ### Spreading places over runs -/

/-- There are as many runs as asked for. -/
@[simp] theorem length_runLengths (total count : Nat) :
    (runLengths total count).length = count := by
  rw [runLengths, List.length_map, List.length_range]

/-- The first `k` runs take `k` times the common length, and the places left over one by one. -/
theorem sum_map_range_runLength (q r k : Nat) :
    ((List.range k).map fun i => q + if i < r then 1 else 0).sum = k * q + min k r := by
  induction k with
  | zero => simp
  | succ k ih =>
    rw [List.range_succ, List.map_append, List.sum_append, ih, List.map_singleton,
      List.sum_singleton, Nat.succ_mul]
    split <;> omega

/-- **No place is left over, and none is used twice.** -/
theorem sum_runLengths {total count : Nat} (hcount : 0 < count) :
    (runLengths total count).sum = total := by
  have hmod := Nat.mod_lt total hcount
  have hdiv := Nat.div_add_mod total count
  rw [runLengths, sum_map_range_runLength, Nat.min_eq_right hmod.le, hdiv]

/-- **No run is empty** if there is a place for each. -/
theorem pos_of_mem_runLengths {total count length : Nat} (hcount : 0 < count)
    (hle : count ≤ total) (hmem : length ∈ runLengths total count) : 0 < length := by
  obtain ⟨k, -, rfl⟩ := List.mem_map.mp hmem
  have := Nat.div_pos hle hcount
  omega

/-! ### Runs that follow each other -/

variable {shape : Shape} {metric : Metric} {shards : List Shard} {p q : Nat}

/-- **Runs of a matrix that follow each other** from one place to another, none of them empty. -/
inductive Adjacent (shape : Shape) (metric : Metric) : Nat → List Shard → Nat → Prop
  /-- No run leads nowhere. -/
  | nil (p : Nat) : Adjacent shape metric p [] p
  /-- A run, and behind its last place further ones. -/
  | cons {s : Shard} {p q : Nat} {shards : List Shard} (hshape : s.shape = shape)
      (hmetric : s.metric = metric) (hfirst : s.first ∈ shape) (hstart : s.start = p)
      (hlength : 0 < s.length) (htail : Adjacent shape metric (p + s.length) shards q) :
      Adjacent shape metric p (s :: shards) q

namespace Adjacent

theorem le (h : Adjacent shape metric p shards q) : p ≤ q := by
  induction h with
  | nil p => exact Nat.le_refl p
  | cons hshape hmetric hfirst hstart hlength htail ih => omega

/-- Each run starts at a cell of the matrix, and lies between the two places. -/
theorem of_mem (h : Adjacent shape metric p shards q) {s : Shard} (hs : s ∈ shards) :
    s.shape = shape ∧ s.metric = metric ∧ s.first ∈ shape ∧ p ≤ s.start
      ∧ s.start + s.length ≤ q := by
  induction h with
  | nil p => exact absurd hs List.not_mem_nil
  | cons hshape hmetric hfirst hstart hlength htail ih =>
    rcases List.mem_cons.mp hs with rfl | hs
    · have := htail.le
      exact ⟨hshape, hmetric, hfirst, hstart.ge, by omega⟩
    · obtain ⟨hshape', hmetric', hfirst', hge, hle⟩ := ih hs
      exact ⟨hshape', hmetric', hfirst', by omega, hle⟩

/-- A run starts where the one in front of it stops, so no two of them meet. -/
theorem pairwise_apart (h : Adjacent shape metric p shards q) : shards.Pairwise Apart := by
  induction h with
  | nil p => exact List.Pairwise.nil
  | cons hshape hmetric hfirst hstart hlength htail ih =>
    refine List.pairwise_cons.mpr ⟨fun t ht p' hp' => ?_, ih⟩
    obtain ⟨-, -, -, hge, -⟩ := htail.of_mem ht
    obtain ⟨⟨-, hlt⟩, hle, -⟩ := hp'
    omega

/-- No place between the two is left out. -/
theorem exists_covers (h : Adjacent shape metric p shards q) {p' : Nat} (hge : p ≤ p')
    (hlt : p' < q) : ∃ s ∈ shards, s.Covers p' := by
  induction h with
  | nil p => omega
  | @cons s p q shards hshape hmetric hfirst hstart hlength htail ih =>
    rcases Nat.lt_or_ge p' (p + s.length) with hin | hout
    · exact ⟨s, List.mem_cons_self, hstart.le.trans hge, hstart.symm ▸ hin⟩
    · obtain ⟨t, ht, hcovers⟩ := ih hout hlt
      exact ⟨t, List.mem_cons_of_mem s ht, hcovers⟩

/-- **Runs that follow each other over all places tile the matrix.** -/
theorem tiles (hshape : shape.IsProper) (h : Adjacent shape metric 0 shards shape.cellCount) :
    Tiles shape shards where
  shape_eq s hs := (h.of_mem hs).1
  inside s hs := by
    obtain ⟨rfl, -, hfirst, -, hle⟩ := h.of_mem hs
    exact ⟨hshape.2, hfirst, hle⟩
  apart := h.pairwise_apart
  complete p hp := h.exists_covers (Nat.zero_le p) hp

end Adjacent

/-! ### Plans -/

/-- **Runs that fit into the matrix are planned**, one behind the other. -/
theorem consecutive_adjacent (hshape : shape.IsProper) (metric : Metric) {lengths : List Nat}
    (hpos : ∀ length ∈ lengths, 0 < length) (hsum : p + lengths.sum ≤ shape.cellCount) :
    ∃ shards, consecutive shape metric p lengths = .ok shards
      ∧ Adjacent shape metric p shards (p + lengths.sum)
      ∧ shards.map (·.length) = lengths := by
  induction lengths generalizing p with
  | nil => exact ⟨[], rfl, Adjacent.nil p, rfl⟩
  | cons length lengths ih =>
    obtain ⟨hlength, hpos⟩ := List.forall_mem_cons.mp hpos
    rw [List.sum_cons, ← Nat.add_assoc] at hsum ⊢
    -- the run is not empty, so there is a cell at its first place
    obtain ⟨first, hfirst, hp⟩ := Shape.exists_mem_of_lt_cellCount hshape (by omega : p < _)
    obtain ⟨shards, hok, hadjacent, hlengths⟩ := ih hpos hsum
    refine ⟨{ shape, first, length, metric } :: shards, ?_,
      Adjacent.cons rfl rfl hfirst hp hlength hadjacent, ?_⟩
    · rw [consecutive, (Shape.cellAt?_eq_some_iff hshape.2).mpr ⟨hfirst, hp⟩]
      dsimp only
      rw [hok]
      rfl
    · rw [List.map_cons, hlengths]

/-- **Every plan tiles the matrix.** -/
theorem exists_plan {demand : Shape} (hdemand : demand.clamp? = some shape) (metric : Metric)
    {count : Nat} (hcount : 1 ≤ count) :
    ∃ shards, plan demand metric count = .ok shards
      ∧ Adjacent shape metric 0 shards shape.cellCount
      ∧ shards.map (·.length) = runLengths shape.cellCount (min count shape.cellCount) := by
  have hshape := Shape.isProper_of_clamp? hdemand
  have hcells := Shape.cellCount_pos hshape
  have hpos : 0 < min count shape.cellCount := by omega
  have hsum : 0 + (runLengths shape.cellCount (min count shape.cellCount)).sum
      = shape.cellCount := by rw [Nat.zero_add, sum_runLengths hpos]
  obtain ⟨shards, hok, hadjacent, hlengths⟩ := consecutive_adjacent hshape metric
    (fun _ => pos_of_mem_runLengths hpos (Nat.min_le_right _ _)) hsum.le
  rw [hsum] at hadjacent
  refine ⟨shards, ?_, hadjacent, hlengths⟩
  rw [plan, if_neg (by omega), hdemand]
  exact hok

end Shard

end CrashTriage
