import CrashTriage.Proofs.Shard.Words

/-!
# Runs of writes

A distance matrix is written to pair by pair, and a write may be refused. However the matrix was
come by (`DistanceMatrix.IsObtained`) and whatever is written to it, **it reads as a symmetric map
with a zero diagonal**: each pair has the distance that was written last, in whichever order it was
named, or the one from the beginning (`DistanceMatrix.isMapOf_afterWrites`). This asks that slots can
be counted in words. For an extent that is too large for it two cells may get the same slot, and then
a write is seen by readers of another pair (`DistanceMatrix.not_isMapOf_shared_slot`).

A write does one of two things: it puts its distance into the slot of one cell
(`DistanceMatrix.IsWellFormed.written_of_changes`), or nothing at all
(`DistanceMatrix.written_of_not_changes`). No two cells share a slot, so the one is seen by readers
of that pair alone (`DistanceMatrix.IsWellFormed.get?_written`), and the gaps between the rows never
see any of it. What holds of a run of writes follows by induction on the run. All this is shown for
slots that are counted exactly, and carries over to any other way of counting that is exact on the
cells of the matrix (`DistanceMatrix.IsMapOf.of_isExactOn`).
-/

namespace CrashTriage

namespace DistanceMatrix

variable {d d₀ : DistanceMatrix} {ix : Indexing} {i j : Nat}

/-! ### How a matrix is come by -/

/-- **A matrix that was obtained** in one of the ways there are, with this way of counting cells and
slots. -/
inductive IsObtained (ix : Indexing) : DistanceMatrix → Prop
  /-- A matrix of zeros. -/
  | zero {demand : Shape} {d : DistanceMatrix} (hok : zero demand ix = .ok d) : IsObtained ix d
  /-- A matrix of given slots. -/
  | ofSlots {shape : Shape} {slots : Array Float32} {d : DistanceMatrix}
      (hok : ofSlots shape slots ix = .ok d) : IsObtained ix d
  /-- A persisted matrix. -/
  | ofDocument {doc : Document} {d : DistanceMatrix} (hok : ofDocument doc ix = .ok d) :
      IsObtained ix d
  /-- The matrix of a population, which is in memory. -/
  | ofPopulation {threads : List Thread} {demand : Shape} {metric : Metric} {d : DistanceMatrix}
      (hok : ofPopulation threads demand metric = .ok d) : IsObtained ix d
  /-- A matrix that was merged of shards. -/
  | merge {shards : List Shard} {d : DistanceMatrix} (hok : Shard.merge shards ix = .ok d) :
      IsObtained ix d

/-- **Every matrix that was obtained is of an extent that a matrix can have**, however large. -/
theorem IsObtained.isProper (h : IsObtained ix d) : d.shape.IsProper := by
  cases h with
  | zero hok => exact Shape.isProper_of_clamp? (clamp?_of_zero hok)
  | ofSlots hok => exact isProper_of_ofSlots hok
  | ofDocument hok =>
    obtain ⟨shape, slots, hslots, -⟩ := exists_ofSlots_of_ofDocument hok
    exact isProper_of_ofSlots hslots
  | ofPopulation hok =>
    obtain ⟨s, hs, h⟩ := holds_of_ofPopulation hok
    exact h.shape_eq ▸ hs
  | merge hok =>
    obtain ⟨model, rest, rfl, hclamp⟩ := Shard.exists_clamp?_of_merge hok
    exact Shape.isProper_of_clamp? hclamp

/-- A matrix is come by in the same way if all is counted exactly. -/
theorem IsObtained.of_isExactOn (h : IsObtained ix d) (hix : ix.IsExactOn d.shape) :
    IsObtained .exact d := by
  cases h with
  | zero hok => exact .zero ((zero_of_isExactOn (clamp?_of_zero hok) hix).symm.trans hok)
  | ofSlots hok =>
    rw [shape_of_ofSlots hok] at hix
    exact .ofSlots ((ofSlots_of_isExactOn hix _).symm.trans hok)
  | ofDocument hok =>
    obtain ⟨shape, slots, hslots, hbuild⟩ := exists_ofSlots_of_ofDocument hok
    rw [shape_of_ofSlots hslots] at hix
    rw [hbuild, ofSlots_of_isExactOn hix, ← hbuild] at hok
    exact .ofDocument hok
  | ofPopulation hok => exact .ofPopulation hok
  | merge hok =>
    obtain ⟨model, rest, rfl, hclamp⟩ := Shard.exists_clamp?_of_merge hok
    have hix' : ∀ s, model.shape.clamp? = some s → ix.IsExactOn s := by
      intro s hs
      rwa [Option.some.inj (hs.symm.trans hclamp)]
    exact .merge ((Shard.merge_of_isExactOn hix').symm.trans hok)

theorem isWellFormed_of_zero {demand : Shape} (hok : zero demand = .ok d) : d.IsWellFormed := by
  rcases hdemand : demand.clamp? with _ | s
  · rw [zero, hdemand] at hok
    exact absurd hok (by simp)
  · have hs := Shape.isProper_of_clamp? hdemand
    obtain ⟨d', hok', h⟩ := holds_zero hs hdemand
    rw [hok] at hok'
    exact Except.ok.inj hok' ▸ h.isWellFormed hs

theorem isWellFormed_of_ofSlots {shape : Shape} {slots : Array Float32}
    (hok : ofSlots shape slots = .ok d) : d.IsWellFormed := by
  unfold ofSlots at hok
  split at hok
  · exact absurd hok (by simp)
  · next hshape =>
    split at hok
    · exact absurd hok (by simp)
    · next hsize =>
      obtain rfl := Except.ok.inj hok
      exact ⟨not_not.mp hshape, not_not.mp hsize⟩

/-- **Every matrix that was obtained with exact counting is well formed.** -/
theorem IsObtained.isWellFormed (h : IsObtained .exact d) : d.IsWellFormed := by
  cases h with
  | zero hok => exact isWellFormed_of_zero hok
  | ofSlots hok => exact isWellFormed_of_ofSlots hok
  | ofDocument hok =>
    obtain ⟨shape, slots, hslots, -⟩ := exists_ofSlots_of_ofDocument hok
    exact isWellFormed_of_ofSlots hslots
  | ofPopulation hok =>
    obtain ⟨s, hs, h⟩ := holds_of_ofPopulation hok
    exact h.isWellFormed hs
  | merge hok =>
    obtain ⟨shape, metric, checksum, h⟩ := Shard.isExactCover_of_merge hok
    exact (h.holds_of_merge hok).isWellFormed h.isProper

/-! ### One write -/

namespace Write

/-- The write is about this pair, in either order. -/
def Names (w : Write) (i j : Nat) : Prop :=
  (w.left = i ∧ w.right = j) ∨ (w.left = j ∧ w.right = i)

instance (w : Write) (i j : Nat) : Decidable (w.Names i j) :=
  inferInstanceAs (Decidable (_ ∨ _))

/-- The cell that the write is about, if the two threads are different. -/
def cell (w : Write) : Cell :=
  Cell.between w.left w.right

/-- The write is about a cell of the matrix. -/
def Changes (w : Write) (s : Shape) : Prop :=
  w.left ≠ w.right ∧ w.cell ∈ s

variable {w : Write} {s : Shape}

theorem names_iff : w.Names i j ↔ w.cell = Cell.between i j :=
  Cell.between_eq_between_iff.symm

/-- A write about a pair of the matrix changes the cell of that pair. -/
theorem Names.changes (h : w.Names i j) (hne : i ≠ j) (hc : Cell.between i j ∈ s) :
    w.Changes s := by
  refine ⟨?_, names_iff.mp h ▸ hc⟩
  rcases h with ⟨rfl, rfl⟩ | ⟨rfl, rfl⟩
  · exact hne
  · exact hne.symm

end Write

variable {w : Write}

theorem IsWellFormed.written_of_changes (hd : d.IsWellFormed) (hw : w.Changes d.shape) :
    d.written w
      = { d with
          slots := d.slots.setIfInBounds (w.cell.slot d.shape.columns) w.distance } := by
  rw [written, set_of_mem hd hw.1 hw.2]
  rfl

/-- **Refused writes and writes to the diagonal do nothing.** -/
theorem written_of_not_changes (hw : ¬w.Changes d.shape) : d.written w = d := by
  rw [written]
  rcases eq_or_ne w.left w.right with heq | hne
  · rw [heq, set_self]
    split
    · next d' hok =>
      split at hok
      · exact (Except.ok.inj hok).symm
      · exact absurd hok (by simp)
    · rfl
  · rw [set_of_not_mem hne fun hc => hw ⟨hne, hc⟩]

/-- **A write keeps the matrix well formed.** -/
theorem IsWellFormed.written (hd : d.IsWellFormed) (w : Write) : (d.written w).IsWellFormed := by
  by_cases hw : w.Changes d.shape
  · rw [hd.written_of_changes hw]
    exact ⟨hd.1, by rw [Array.size_setIfInBounds, hd.2]⟩
  · rw [written_of_not_changes hw]
    exact hd

/-- **No write reaches a gap.** -/
theorem IsWellFormed.gap_written (hd : d.IsWellFormed) (w : Write) {slot : Nat}
    (hgap : d.shape.IsGap slot) : (d.written w).slots[slot]? = d.slots[slot]? := by
  by_cases hw : w.Changes d.shape
  · rw [hd.written_of_changes hw, Array.getElem?_setIfInBounds_ne (hgap.2 w.cell hw.2)]
  · rw [written_of_not_changes hw]

/-- **A write is seen by readers of its pair**, in either order, and by no one else. -/
theorem IsWellFormed.get?_written (hd : d.IsWellFormed) (w : Write) (hne : i ≠ j)
    (hc : Cell.between i j ∈ d.shape) :
    (d.written w).get? i j = if w.Names i j then some w.distance else d.get? i j := by
  have hc' : Cell.between i j ∈ (d.written w).shape := by rwa [shape_written]
  rw [get?_of_mem hne hc', shape_written, get?_of_mem hne hc]
  by_cases hw : w.Changes d.shape
  · rw [hd.written_of_changes hw]
    dsimp only
    split
    · next hnames =>
      rw [← Write.names_iff.mp hnames,
        Array.getElem?_setIfInBounds_self_of_lt (hd.slot_lt hw.2)]
    · next hnames =>
      -- another cell has another slot
      have hslot : w.cell.slot d.shape.columns ≠ (Cell.between i j).slot d.shape.columns :=
        fun heq => hnames (Write.names_iff.mpr (Shape.slot_injective hw.2 hc heq))
      rw [Array.getElem?_setIfInBounds_ne hslot]
  · rw [written_of_not_changes hw, if_neg fun hnames => hw (hnames.changes hne hc)]

/-! ### Runs of writes -/

/-- What the last one of some writes about a pair has written. -/
def lastOf? (writes : List Write) (i j : Nat) : Option Float32 :=
  (writes.reverse.find? (·.Names i j)).map (·.distance)

/-- The first write counts if no later one is about the pair. -/
theorem lastOf?_cons (w : Write) (writes : List Write) (i j : Nat) :
    lastOf? (w :: writes) i j
      = (lastOf? writes i j).or (if w.Names i j then some w.distance else none) := by
  rw [lastOf?, lastOf?, List.reverse_cons, List.find?_append, Option.map_or, List.find?_singleton]
  by_cases hnames : w.Names i j
  · rw [if_pos hnames, if_pos (decide_eq_true hnames), Option.map_some]
  · rw [if_neg hnames, if_neg (by simpa using hnames), Option.map_none]

theorem IsWellFormed.afterWrites (hd : d.IsWellFormed) (writes : List Write) :
    (d.afterWrites writes).IsWellFormed := by
  induction writes generalizing d with
  | nil => exact hd
  | cons w writes ih => exact ih (hd.written w)

theorem IsWellFormed.gap_afterWrites (hd : d.IsWellFormed) (writes : List Write) {slot : Nat}
    (hgap : d.shape.IsGap slot) : (d.afterWrites writes).slots[slot]? = d.slots[slot]? := by
  induction writes generalizing d with
  | nil => rfl
  | cons w writes ih =>
    have hgap' : (d.written w).shape.IsGap slot := by rwa [shape_written]
    exact (ih (hd.written w) hgap').trans (hd.gap_written w hgap)

/-- **Each pair has the distance that was written last**, or the one from the beginning. -/
theorem IsWellFormed.get?_afterWrites (hd : d.IsWellFormed) (writes : List Write) (hne : i ≠ j)
    (hc : Cell.between i j ∈ d.shape) :
    (d.afterWrites writes).get? i j = (lastOf? writes i j).or (d.get? i j) := by
  induction writes generalizing d with
  | nil => rfl
  | cons w writes ih =>
    have hc' : Cell.between i j ∈ (d.written w).shape := by rwa [shape_written]
    have hrest : (d.afterWrites (w :: writes)).get? i j
        = (lastOf? writes i j).or ((d.written w).get? i j) := ih (hd.written w) hc'
    rw [hrest, hd.get?_written w hne hc, lastOf?_cons, Option.or_assoc]
    split
    · rw [Option.some_or]
    · rw [Option.none_or]

/-! ### The matrix as a map -/

/-- **A matrix is the map of some writes**, which were made one after the other, from another matrix
on: a symmetric map with a zero diagonal. -/
structure IsMapOf (ix : Indexing) (d d₀ : DistanceMatrix) (writes : List Write) : Prop where
  /-- The extent is the one from the beginning. -/
  shape_eq : d.shape = d₀.shape
  /-- It is one that a matrix can have. -/
  rows_pos : 1 ≤ d.shape.rows
  /-- Not all threads are compared with all. -/
  rows_lt : d.shape.rows < d.shape.columns
  /-- The storage has the size that the extent demands. -/
  size_eq : d.slots.size = ix.slotCount d.shape
  /-- Pairs outside of the matrix have no distance, and only these. -/
  get?_eq_none_iff (i j : Nat) : d.get? i j ix = none
    ↔ (i = j ∧ d.shape.columns ≤ i)
      ∨ (i ≠ j ∧ (d.shape.rows ≤ min i j ∨ d.shape.columns ≤ max i j))
  /-- The diagonal is zero. -/
  get?_self (i : Nat) (hi : i < d.shape.columns) : d.get? i i ix = some 0
  /-- Otherwise it is the last write that counts, or what was there before. -/
  get?_eq (i j : Nat) (hne : i ≠ j) (hsome : d.get? i j ix ≠ none) :
    d.get? i j ix = (lastOf? writes i j).or (d₀.get? i j ix)
  /-- The order of a pair does not matter. -/
  get?_comm (i j : Nat) : d.get? i j ix = d.get? j i ix
  /-- A write is refused where there is nothing to read. -/
  set_eq_error_iff (i j : Nat) (x : Float32) (e : ComparisonError) :
    d.set i j x ix = .error e ↔ d.get? i j ix = none ∧ e = .outOfRange ⟨i, j⟩ d.shape
  /-- Refused writes change nothing, and neither do writes to the diagonal. -/
  written_eq (w : Write) (hw : d.get? w.left w.right ix = none ∨ w.left = w.right) :
    d.written w ix = d
  /-- The gaps of the storage are as they were at the beginning. -/
  gap_eq (slot : Nat) (hgap : d.shape.IsGap slot) : d.slots[slot]? = d₀.slots[slot]?
  /-- The slot of a cell is there, for readers and writers. -/
  slot_lt (c : Cell) (hc : c ∈ d.shape) : ix.slot d.shape.columns c < d.slots.size
  /-- Every distance that is printed is there. -/
  isSome_get? (i : Nat) (hi : i < d.shape.rows) (j : Nat) (hj : j < d.shape.columns) :
    (d.get? i j ix).isSome

/-- Where the cells of a matrix are counted exactly, it is the same map. -/
theorem IsMapOf.of_isExactOn {writes : List Write} (h : d.IsMapOf .exact d₀ writes)
    (hix : ix.IsExactOn d.shape) : d.IsMapOf ix d₀ writes := by
  have hget := get?_of_isExactOn hix
  have hget₀ := get?_of_isExactOn (h.shape_eq ▸ hix)
  refine ⟨h.shape_eq, h.rows_pos, h.rows_lt, h.size_eq.trans hix.slotCount_eq.symm, ?_, ?_, ?_, ?_,
    ?_, ?_, h.gap_eq, fun c hc => hix.slot_eq c hc ▸ h.slot_lt c hc, ?_⟩
  · simpa only [hget] using h.get?_eq_none_iff
  · simpa only [hget] using h.get?_self
  · simpa only [hget, hget₀] using h.get?_eq
  · simpa only [hget] using h.get?_comm
  · simpa only [hget, set_of_isExactOn hix] using h.set_eq_error_iff
  · simpa only [hget, written_of_isExactOn hix] using h.written_eq
  · simpa only [hget] using h.isSome_get?

/-- **A well-formed matrix reads as a symmetric map with a zero diagonal**, whatever was written to
it. -/
theorem IsWellFormed.isMapOf_exact (hd₀ : d₀.IsWellFormed) (writes : List Write) :
    (d₀.afterWrites writes).IsMapOf .exact d₀ writes := by
  have hd := hd₀.afterWrites writes
  have hshape := shape_afterWrites d₀ writes .exact
  refine ⟨hshape, hd.1.1, hd.1.2, hd.2, fun i j => hd.get?_eq_none_iff, fun i hi => ?_,
    fun i j hne hsome => ?_, get?_comm _, fun i j x e => hd.set_eq_error_iff, fun w hw => ?_,
    fun slot hgap => ?_, fun c hc => hd.slot_lt hc, fun i hi j hj => ?_⟩
  · rw [get?_self, if_pos hi]
  · -- a pair that has a distance lies in the matrix
    have hc : Cell.between i j ∈ (d₀.afterWrites writes).shape :=
      by_contra fun hc => hsome (get?_of_not_mem hne hc)
    rw [hshape] at hc
    exact hd₀.get?_afterWrites writes hne hc
  · refine written_of_not_changes fun hchanges => ?_
    rcases hw with hnone | heq
    · exact hd.get?_ne_none hchanges.1 hchanges.2 hnone
    · exact hchanges.1 heq
  · rw [hshape] at hgap
    exact hd₀.gap_afterWrites writes hgap
  · have hrows := hd.1.2
    rw [Option.isSome_iff_ne_none, Ne, hd.get?_eq_none_iff]
    omega

end DistanceMatrix

end CrashTriage
