import CrashTriage.Shard.Merge
import CrashTriage.Proofs.Shard.Cover

/-!
# Adding shards to an assembly

While shards are merged, an assembly is told by the distances that it has so far, as a function on
places (`Assembly.Holds`): a place without a distance is not covered, and its cell is zero. Adding
a shard that fits puts its distances beside those that are there (`Assembly.Holds.add`). A shard is
refused exactly if it is no piece of the matrix (`Assembly.Holds.isPiece_of_add`) or meets an
earlier one (`Assembly.Holds.free_of_add`): in the one case for the **first check** that it fails
(`FirstFault`), in the other one as overlapping, and never because of a cell outside of the matrix
(`Assembly.Holds.of_add_eq_error`).
-/

namespace CrashTriage

namespace Shard

/-- The shard is a piece of the matrix: of its extent, metric and population, with all its
distances, and inside of it. -/
structure IsPiece (shape : Shape) (metric : Metric) (checksum : UInt32) (s : Shard) : Prop where
  /-- The shard is of the matrix. -/
  shape_eq : s.shape = shape
  /-- The distances are of the metric. -/
  metric_eq : s.metric = metric
  /-- The distances are of a population with the checksum. -/
  checksum_eq : s.checksum = some checksum
  /-- No distance is missing. -/
  filled : s.IsFilled
  /-- The run lies inside the matrix. -/
  inside : s.IsInside

/-- **The first check that a shard fails**, by the error that it leads to. A shard has to be of the
matrix, of the metric, computed, of the population, with a distance for each cell, and inside the
matrix, and this is asked in this order. -/
inductive FirstFault (shape : Shape) (metric : Metric) (checksum : UInt32) (index : Nat)
    (s : Shard) : MergeError → Prop where
  /-- The shard is of another matrix. -/
  | shape (hshape : s.shape ≠ shape) :
    FirstFault shape metric checksum index s (.shapeMismatch index s.shape shape)
  /-- The distances are of another metric. -/
  | metric (hshape : s.shape = shape) (hmetric : s.metric ≠ metric) :
    FirstFault shape metric checksum index s (.metricMismatch index metric s.metric)
  /-- The distances or the checksum are missing. -/
  | computed (hshape : s.shape = shape) (hmetric : s.metric = metric)
      (hcomputed : ¬s.isComputed) :
    FirstFault shape metric checksum index s (.notComputed index)
  /-- The distances are of another population. -/
  | checksum (hshape : s.shape = shape) (hmetric : s.metric = metric) (hcomputed : s.isComputed)
      {found : UInt32} (hfound : s.checksum = some found) (hchecksum : found ≠ checksum) :
    FirstFault shape metric checksum index s (.checksumMismatch index checksum found)
  /-- There are more or fewer distances than cells. -/
  | length (hshape : s.shape = shape) (hmetric : s.metric = metric)
      (hchecksum : s.checksum = some checksum) {distances : List Float32}
      (hsome : s.distances = some distances) (hlength : distances.length ≠ s.length) :
    FirstFault shape metric checksum index s (.lengthMismatch index s.length distances.length)
  /-- The run does not lie inside the matrix. -/
  | range (hshape : s.shape = shape) (hmetric : s.metric = metric)
      (hchecksum : s.checksum = some checksum) (hfilled : s.IsFilled) (hout : ¬s.IsInside) :
    FirstFault shape metric checksum index s (.outOfRange index)

theorem isComputed_iff {s : Shard} :
    s.isComputed ↔ ∃ distances found, s.distances = some distances ∧ s.checksum = some found := by
  rw [isComputed, Bool.and_eq_true, Option.isSome_iff_exists, Option.isSome_iff_exists]
  constructor
  · rintro ⟨⟨distances, hsome⟩, found, hfound⟩
    exact ⟨distances, found, hsome, hfound⟩
  · rintro ⟨distances, found, hsome, hfound⟩
    exact ⟨⟨distances, hsome⟩, found, hfound⟩

/-- **A shard that is no piece fails one of the checks.** -/
theorem exists_firstFault {shape : Shape} {metric : Metric} {checksum : UInt32} {s : Shard}
    (index : Nat) (hs : ¬IsPiece shape metric checksum s) :
    ∃ e, FirstFault shape metric checksum index s e := by
  rcases ne_or_eq s.shape shape with hshape | hshape
  · exact ⟨_, .shape hshape⟩
  rcases ne_or_eq s.metric metric with hmetric | hmetric
  · exact ⟨_, .metric hshape hmetric⟩
  rcases Decidable.em s.isComputed with hcomputed | hcomputed
  · obtain ⟨distances, found, hsome, hfound⟩ := isComputed_iff.mp hcomputed
    rcases ne_or_eq found checksum with hchecksum | rfl
    · exact ⟨_, .checksum hshape hmetric hcomputed hfound hchecksum⟩
    rcases ne_or_eq distances.length s.length with hlength | hlength
    · exact ⟨_, .length hshape hmetric hfound hsome hlength⟩
    have hfilled : s.IsFilled := ⟨distances, hsome, hlength⟩
    exact ⟨_, .range hshape hmetric hfound hfilled fun hin =>
      hs ⟨hshape, hmetric, hfound, hfilled, hin⟩⟩
  · exact ⟨_, .computed hshape hmetric hcomputed⟩

/-- No check is about the matrix itself. -/
theorem FirstFault.ne_comparison {shape : Shape} {metric : Metric} {checksum : UInt32}
    {index : Nat} {s : Shard} {e : MergeError}
    (he : FirstFault shape metric checksum index s e) (cause : ComparisonError) :
    e ≠ .comparison cause := by
  cases he <;> simp

namespace Assembly

variable {asm asm' : Assembly} {shape : Shape} {value : Nat → Option Float32}

/-- **What an assembly holds**: the distances of some places. The cells of the other places are
zero, and not covered. -/
structure Holds (asm : Assembly) (shape : Shape) (value : Nat → Option Float32) : Prop where
  /-- Each cell has the distance of its place, if there is one. -/
  matrix : asm.matrix.Holds shape fun c => (value (c.position shape.columns)).getD 0
  /-- There is a mark for each place. -/
  size_eq : asm.covered.size = shape.cellCount
  /-- The places with a distance are marked. -/
  covered : ∀ p < shape.cellCount, asm.covered[p]? = some (value p).isSome

/-- An assembly starts without any distance. -/
theorem holds_start {demand : Shape} (hdemand : demand.clamp? = some shape) :
    ∃ asm, start demand = .ok asm ∧ asm.Holds shape fun _ => none := by
  obtain ⟨d, hzero, hd⟩ := DistanceMatrix.holds_zero (Shape.isProper_of_clamp? hdemand) hdemand
  refine ⟨⟨d, Array.replicate d.shape.cellCount false⟩, by rw [start, hzero], hd, ?_, ?_⟩
  · rw [Array.size_replicate, hd.shape_eq]
  · intro p hp
    rw [Array.getElem?_replicate, hd.shape_eq, if_pos hp]
    rfl

/-! ### Adding cells -/

/-- The distances that are there, and behind them those of a run from a place on. -/
def overlay (value : Nat → Option Float32) (position : Nat) (distances : List Float32) :
    Nat → Option Float32 :=
  fun p => (value p).or (if position ≤ p then distances[p - position]? else none)

theorem overlay_nil (position : Nat) : overlay value position [] = value := by
  funext p
  simp [overlay]

/-- The first distance of a run may as well be written alone. -/
theorem overlay_cons {position : Nat} (hfree : value position = none) (x : Float32)
    (xs : List Float32) :
    overlay value position (x :: xs)
      = overlay (Function.update value position (some x)) (position + 1) xs := by
  funext p
  unfold overlay
  rcases Nat.lt_trichotomy p position with hlt | rfl | hgt
  · rw [Function.update_of_ne hlt.ne, if_neg (by omega), if_neg (by omega)]
  · rw [Function.update_self, hfree, if_pos (Nat.le_refl p), Nat.sub_self]
    rfl
  · have hsub : p - position = p - (position + 1) + 1 := by omega
    rw [Function.update_of_ne hgt.ne', if_pos (by omega), if_pos (by omega), hsub,
      List.getElem?_cons_succ]

/-- **Writing a cell and marking its place** gives the place a distance. -/
theorem Holds.write (hshape : shape.IsProper) (h : asm.Holds shape value) {c : Cell}
    (hc : c ∈ shape) (x : Float32) :
    ∃ d, asm.matrix.set c.row c.column x = .ok d
      ∧ Holds ⟨d, asm.covered.setIfInBounds (c.position shape.columns) true⟩ shape
          (Function.update value (c.position shape.columns) (some x)) := by
  obtain ⟨d, hset, hd⟩ := h.matrix.set hshape hc x
  have hlt := Shape.position_lt_cellCount hshape.2 hc
  refine ⟨d, hset, hd.congr fun c' hc' => ?_, by rw [Array.size_setIfInBounds, h.size_eq], ?_⟩
  · -- the matrix changes at a cell and the distances at a place, which comes to the same
    by_cases heq : c' = c
    · rw [heq, Function.update_self, Function.update_self]
      rfl
    · have hpos : c'.position shape.columns ≠ c.position shape.columns := fun hcon =>
        heq (Shape.position_injective hc' hc hcon)
      rw [Function.update_of_ne heq, Function.update_of_ne hpos]
  · intro p hp
    by_cases heq : p = c.position shape.columns
    · rw [heq, Function.update_self, Array.getElem?_setIfInBounds_self_of_lt (by
        rw [h.size_eq]; exact hlt)]
      rfl
    · rw [Function.update_of_ne heq, Array.getElem?_setIfInBounds_ne (Ne.symm heq),
        h.covered p hp]

/-- The cells follow each other from a place on. -/
def FollowFrom (shape : Shape) (position : Nat) (items : List (Cell × Float32)) : Prop :=
  ∀ (k : Nat) (c : Cell) (x : Float32), items[k]? = some (c, x) →
    c ∈ shape ∧ c.position shape.columns = position + k

theorem FollowFrom.tail {position : Nat} {item : Cell × Float32} {items : List (Cell × Float32)}
    (h : FollowFrom shape position (item :: items)) : FollowFrom shape (position + 1) items := by
  intro k c x hk
  obtain ⟨hc, hpos⟩ := h (k + 1) c x hk
  exact ⟨hc, by omega⟩

/-- **Cells whose places are free are all added.** -/
theorem Holds.addCells (hshape : shape.IsProper) (index : Nat) {items : List (Cell × Float32)}
    {position : Nat} (hitems : FollowFrom shape position items) (h : asm.Holds shape value)
    (hfree : ∀ k < items.length, value (position + k) = none) :
    ∃ asm', asm.addCells index items position = .ok asm'
      ∧ asm'.Holds shape (overlay value position (items.map Prod.snd)) := by
  induction items generalizing asm value position with
  | nil => exact ⟨asm, rfl, by rw [List.map_nil, overlay_nil]; exact h⟩
  | cons item items ih =>
    obtain ⟨c, x⟩ := item
    obtain ⟨hc, hpos⟩ := hitems 0 c x rfl
    rw [Nat.add_zero] at hpos
    have hnone : value position = none := hfree 0 (Nat.zero_lt_succ _)
    -- the first place is free, so the mark there does not stop the run
    have hmark : asm.covered[position]? = some false := by
      rw [h.covered position (hpos ▸ Shape.position_lt_cellCount hshape.2 hc), hnone]
      rfl
    obtain ⟨d, hset, hd⟩ := h.write hshape hc x
    rw [hpos] at hd
    have hfree' : ∀ k < items.length,
        Function.update value position (some x) (position + 1 + k) = none := by
      intro k hk
      rw [Function.update_of_ne (by omega)]
      have := hfree (k + 1) (Nat.succ_lt_succ hk)
      rwa [← Nat.add_assoc, Nat.add_right_comm] at this
    obtain ⟨asm', hadd, h'⟩ := ih hitems.tail hd hfree'
    refine ⟨asm', ?_, ?_⟩
    · rw [Assembly.addCells, hmark, if_neg (by simp), hset]
      exact hadd
    · rw [List.map_cons, overlay_cons hnone]
      exact h'

/-- **A cell whose place is taken is refused**, and with it the whole run. -/
theorem Holds.addCells_overlap (hshape : shape.IsProper) (index : Nat)
    {items : List (Cell × Float32)} {position : Nat} (hitems : FollowFrom shape position items)
    (h : asm.Holds shape value)
    (htaken : ∃ k < items.length, value (position + k) ≠ none) :
    asm.addCells index items position = .error (.overlap index) := by
  induction items generalizing asm value position with
  | nil =>
    obtain ⟨k, hk, -⟩ := htaken
    exact absurd hk (Nat.not_lt_zero k)
  | cons item items ih =>
    obtain ⟨c, x⟩ := item
    obtain ⟨hc, hpos⟩ := hitems 0 c x rfl
    rw [Nat.add_zero] at hpos
    have hmark := h.covered position (hpos ▸ Shape.position_lt_cellCount hshape.2 hc)
    rw [Assembly.addCells, hmark]
    rcases hvalue : value position with _ | y
    · obtain ⟨d, hset, hd⟩ := h.write hshape hc x
      rw [hpos] at hd
      rw [if_neg (by simp), hset]
      refine ih hitems.tail hd ?_
      -- the first place is free, so it is one of the others that is taken
      obtain ⟨k, hk, hne⟩ := htaken
      rcases k with _ | k
      · exact absurd hvalue hne
      · refine ⟨k, Nat.lt_of_succ_lt_succ hk, ?_⟩
        rw [Function.update_of_ne (by omega), Nat.add_right_comm, Nat.add_assoc]
        exact hne
    · rw [if_pos (by simp)]

/-! ### Adding a shard -/

variable {metric : Metric} {checksum : UInt32} {model s : Shard}

/-- The cells of a piece, with their distances, follow each other from its start on. -/
theorem followFrom_cells (hs : s.IsInside) (hshape : s.shape = shape) (distances : List Float32) :
    FollowFrom shape s.start (s.cells.zip distances) := by
  intro k c x hk
  obtain ⟨hc, -⟩ := List.getElem?_zip_eq_some.mp hk
  obtain ⟨-, hmem, hpos⟩ := (getElem?_cells hs).mp hc
  exact hshape ▸ ⟨hmem, hpos⟩

/-- A piece passes all checks up to that of its place. If it has one, what remains is to add its
cells. -/
theorem add_of_isPiece {ix : Indexing} (index : Nat) (hasm : asm.matrix.shape = shape)
    (hs : IsPiece shape model.metric checksum s) {distances : List Float32}
    (hsome : s.distances = some distances) (hlength : distances.length = s.length) {position : Nat}
    (hplace : s.start? ix = some position) :
    asm.add model checksum index s ix
      = asm.addCells index (s.cells.zip distances) position ix := by
  rw [add, if_neg (by rw [hs.shape_eq, hasm]; simp), if_neg (by rw [hs.metric_eq]; simp), hsome,
    hs.checksum_eq]
  dsimp only
  rw [if_neg (by simp), if_neg (by rw [hlength]; simp), hplace]

/-- **A shard is refused for the first check that it fails.** -/
theorem add_eq_error {index : Nat} {e : MergeError} (hasm : asm.matrix.shape = shape)
    (he : FirstFault shape model.metric checksum index s e) :
    asm.add model checksum index s = .error e := by
  subst hasm
  cases he with
  | shape hshape => rw [add, if_pos hshape]
  | metric hshape hmetric => rw [add, if_neg (not_not.mpr hshape), if_pos hmetric]
  | computed hshape hmetric hcomputed =>
    rw [add, if_neg (not_not.mpr hshape), if_neg (not_not.mpr hmetric)]
    split
    · next distances found hsome hfound =>
      exact absurd (isComputed_iff.mpr ⟨distances, found, hsome, hfound⟩) hcomputed
    · rfl
  | checksum hshape hmetric hcomputed hfound hchecksum =>
    obtain ⟨distances, -, hsome, -⟩ := isComputed_iff.mp hcomputed
    rw [add, if_neg (not_not.mpr hshape), if_neg (not_not.mpr hmetric), hsome, hfound]
    exact if_pos hchecksum
  | length hshape hmetric hchecksum hsome hlength =>
    rw [add, if_neg (not_not.mpr hshape), if_neg (not_not.mpr hmetric), hsome, hchecksum]
    dsimp only
    rw [if_neg (not_not.mpr rfl), if_pos hlength]
  | range hshape hmetric hchecksum hfilled hout =>
    obtain ⟨distances, hsome, hlength⟩ := hfilled
    rw [add, if_neg (not_not.mpr hshape), if_neg (not_not.mpr hmetric), hsome, hchecksum]
    dsimp only
    rw [if_neg (not_not.mpr rfl), if_neg (not_not.mpr hlength), start?_eq_none_iff.mpr hout]

/-- **A piece that meets no earlier one is added**, with all its distances. -/
theorem Holds.add (hshape : shape.IsProper) (index : Nat) (h : asm.Holds shape value)
    (hs : IsPiece shape model.metric checksum s)
    (hfree : ∀ p, s.Covers p → value p = none) :
    ∃ asm', asm.add model checksum index s = .ok asm'
      ∧ asm'.Holds shape fun p => (value p).or (s.value? p) := by
  obtain ⟨distances, hsome, hlength⟩ := hs.filled
  have hcells := length_cells hs.inside
  have hsnd : (s.cells.zip distances).map Prod.snd = distances :=
    List.map_snd_zip (by omega)
  have hfree' : ∀ k < (s.cells.zip distances).length, value (s.start + k) = none := by
    intro k hk
    rw [List.length_zip] at hk
    exact hfree _ ⟨Nat.le_add_right _ _, by omega⟩
  obtain ⟨asm', hadd, h'⟩ :=
    h.addCells hshape index (followFrom_cells hs.inside hs.shape_eq distances) hfree'
  refine ⟨asm', by rw [add_of_isPiece index h.matrix.shape_eq hs hsome hlength hs.inside.start?_eq,
    hadd], ?_⟩
  rw [hsnd] at h'
  have hvalue : overlay value s.start distances = fun p => (value p).or (s.value? p) := by
    funext p
    rw [overlay, value?, hsome, Option.getD_some]
  exact hvalue ▸ h'

/-- **A piece that meets an earlier one is refused** as overlapping. -/
theorem Holds.add_overlap (hshape : shape.IsProper) (index : Nat) (h : asm.Holds shape value)
    (hs : IsPiece shape model.metric checksum s)
    (htaken : ∃ p, s.Covers p ∧ value p ≠ none) :
    asm.add model checksum index s = .error (.overlap index) := by
  obtain ⟨distances, hsome, hlength⟩ := hs.filled
  have hcells := length_cells hs.inside
  obtain ⟨p, ⟨hge, hlt⟩, hne⟩ := htaken
  rw [add_of_isPiece index h.matrix.shape_eq hs hsome hlength hs.inside.start?_eq]
  refine h.addCells_overlap hshape index (followFrom_cells hs.inside hs.shape_eq distances)
    ⟨p - s.start, ?_, ?_⟩
  · rw [List.length_zip]
    omega
  · rw [Nat.add_sub_cancel' hge]
    exact hne

/-- **A shard that is not added fails a check or meets an earlier one.** -/
theorem Holds.of_add_eq_error (hshape : shape.IsProper) {index : Nat} {e : MergeError}
    (h : asm.Holds shape value) (herror : asm.add model checksum index s = .error e) :
    e = .overlap index ∨ FirstFault shape model.metric checksum index s e := by
  by_cases hs : IsPiece shape model.metric checksum s
  · left
    by_cases htaken : ∃ p, s.Covers p ∧ value p ≠ none
    · rw [h.add_overlap hshape index hs htaken] at herror
      exact (Except.error.inj herror).symm
    · obtain ⟨asm', hok, -⟩ := h.add hshape index hs fun p hp =>
        not_not.mp fun hne => htaken ⟨p, hp, hne⟩
      rw [hok] at herror
      exact absurd herror (by simp)
  · right
    obtain ⟨e', he⟩ := exists_firstFault index hs
    rw [add_eq_error h.matrix.shape_eq he] at herror
    exact Except.error.inj herror ▸ he

/-- Only pieces are added. -/
theorem Holds.isPiece_of_add {index : Nat} (h : asm.Holds shape value)
    (hok : asm.add model checksum index s = .ok asm') :
    IsPiece shape model.metric checksum s := by
  by_contra hs
  obtain ⟨e, he⟩ := exists_firstFault index hs
  rw [add_eq_error h.matrix.shape_eq he] at hok
  exact absurd hok (by simp)

/-- Only shards that meet no earlier one are added. -/
theorem Holds.free_of_add (hshape : shape.IsProper) {index : Nat} (h : asm.Holds shape value)
    (hok : asm.add model checksum index s = .ok asm') {p : Nat} (hp : s.Covers p) :
    value p = none := by
  by_contra hne
  have hover := h.add_overlap hshape index (h.isPiece_of_add hok) ⟨p, hp, hne⟩
  rw [hok] at hover
  exact absurd hover (by simp)

/-- What an assembly holds after a shard has been added. -/
theorem Holds.holds_of_add (hshape : shape.IsProper) {index : Nat} (h : asm.Holds shape value)
    (hok : asm.add model checksum index s = .ok asm') :
    asm'.Holds shape fun p => (value p).or (s.value? p) := by
  obtain ⟨asm₁, hok₁, h₁⟩ :=
    h.add hshape index (h.isPiece_of_add hok) fun p hp => h.free_of_add hshape hok hp
  rw [hok] at hok₁
  exact Except.ok.inj hok₁ ▸ h₁

end Assembly

end Shard

end CrashTriage
