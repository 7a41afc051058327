import CrashTriage.Proofs.Shard.Assembly

/-!
# What can be merged

Adding shards one by one succeeds exactly if all of them are pieces of the matrix and no two of
them meet (`Assembly.Holds.addAll`, `Assembly.Holds.of_addAll`). What is left to ask at the end is
whether a place was left out. So **the lists that can be merged are the exact covers**, and the
matrix holds for each cell the distance of the shard that covers it (`IsExactCover.merge`,
`isExactCover_of_merge`).

An exact cover is one in any order, and its distances do not depend on the order either; so neither
does the outcome of merging it (`merge_perm`).
-/

namespace CrashTriage

namespace Shard

namespace Assembly

variable {asm asm' : Assembly} {shape : Shape} {value : Nat → Option Float32}
  {checksum : UInt32} {model : Shard} {shards : List Shard}

/-- What is asked of shards for them to be added to an assembly: all are pieces of its matrix, no
two of them meet, and none meets what is there. -/
structure Fits (shape : Shape) (metric : Metric) (checksum : UInt32)
    (value : Nat → Option Float32) (shards : List Shard) : Prop where
  /-- All shards are pieces of the matrix. -/
  piece : ∀ s ∈ shards, IsPiece shape metric checksum s
  /-- No two of them meet. -/
  apart : shards.Pairwise Apart
  /-- None of them meets what is there. -/
  free : ∀ s ∈ shards, ∀ p, s.Covers p → value p = none

theorem addAll_cons {ix : Indexing} {s : Shard} {index : Nat}
    (hadd : asm.add model checksum index s ix = .ok asm') :
    asm.addAll model checksum index (s :: shards) ix
      = asm'.addAll model checksum (index + 1) shards ix := by
  rw [addAll, hadd]
  rfl

theorem addAll_cons_error {ix : Indexing} {s : Shard} {index : Nat} {e : MergeError}
    (hadd : asm.add model checksum index s ix = .error e) :
    asm.addAll model checksum index (s :: shards) ix = .error e := by
  rw [addAll, hadd]
  rfl

/-- **Shards that fit are all added**, with all their distances. -/
theorem Holds.addAll (hshape : shape.IsProper) (index : Nat) (h : asm.Holds shape value)
    (hfits : Fits shape model.metric checksum value shards) :
    ∃ asm', asm.addAll model checksum index shards = .ok asm'
      ∧ asm'.Holds shape fun p => (value p).or (valueAt? shards p) := by
  induction shards generalizing asm value index with
  | nil =>
    refine ⟨asm, rfl, ?_⟩
    have hvalue : (fun p => (value p).or (valueAt? [] p)) = value := by
      funext p
      exact Option.or_none
    rw [hvalue]
    exact h
  | cons s shards ih =>
    obtain ⟨hpiece, hapart, hfree⟩ := hfits
    obtain ⟨hhead, htail⟩ := List.pairwise_cons.mp hapart
    have hs := hpiece s List.mem_cons_self
    obtain ⟨asm₁, hadd, h₁⟩ := h.add hshape index hs (hfree s List.mem_cons_self)
    -- what the first shard holds is met by none of the others, as these are apart from it
    have hfits₁ : Fits shape model.metric checksum (fun p => (value p).or (s.value? p)) shards := by
      refine ⟨fun t ht => hpiece t (List.mem_cons_of_mem s ht), htail, fun t ht p hp => ?_⟩
      have hnone : s.value? p = none := by
        rw [← Option.not_isSome_iff_eq_none, isSome_value?_iff hs.filled]
        exact fun hsp => hhead t ht p ⟨hsp, hp⟩
      rw [hfree t (List.mem_cons_of_mem s ht) p hp, hnone]
      rfl
    obtain ⟨asm', haddAll, h'⟩ := ih (index + 1) h₁ hfits₁
    refine ⟨asm', by rw [addAll_cons hadd, haddAll], ?_⟩
    have hvalue : (fun p => ((value p).or (s.value? p)).or (valueAt? shards p))
        = fun p => (value p).or (valueAt? (s :: shards) p) := by
      funext p
      rw [Option.or_assoc, valueAt?, valueAt?, List.findSome?_cons]
      cases s.value? p <;> rfl
    exact hvalue ▸ h'

/-- **Only shards that fit are all added.** -/
theorem Holds.of_addAll (hshape : shape.IsProper) {index : Nat} (h : asm.Holds shape value)
    (hok : asm.addAll model checksum index shards = .ok asm') :
    Fits shape model.metric checksum value shards := by
  induction shards generalizing asm value index with
  | nil => exact ⟨by simp, List.Pairwise.nil, by simp⟩
  | cons s shards ih =>
    rcases hadd : asm.add model checksum index s with e | asm₁
    · rw [addAll_cons_error hadd] at hok
      exact absurd hok (by simp)
    · have hs := h.isPiece_of_add hadd
      have hfree : ∀ p, s.Covers p → value p = none := fun p hp => h.free_of_add hshape hadd hp
      have h₁ := h.holds_of_add hshape hadd
      rw [addAll_cons hadd] at hok
      obtain ⟨hpiece, hapart, hfree₁⟩ := ih h₁ hok
      refine ⟨List.forall_mem_cons.mpr ⟨hs, hpiece⟩, List.pairwise_cons.mpr ⟨?_, hapart⟩,
        List.forall_mem_cons.mpr ⟨hfree, fun t ht p hp => (Option.or_eq_none_iff.mp
          (hfree₁ t ht p hp)).1⟩⟩
      intro t ht p hp
      -- what a later shard covers was free after the first one, so the first holds nothing there
      have hnone := (Option.or_eq_none_iff.mp (hfree₁ t ht p hp.2)).2
      have hsome := (isSome_value?_iff hs.filled).mpr hp.1
      rw [hnone] at hsome
      exact absurd hsome (by simp)

/-- What an assembly holds after shards have been added. -/
theorem Holds.holds_of_addAll (hshape : shape.IsProper) {index : Nat} (h : asm.Holds shape value)
    (hok : asm.addAll model checksum index shards = .ok asm') :
    asm'.Holds shape fun p => (value p).or (valueAt? shards p) := by
  obtain ⟨asm₁, hok₁, h₁⟩ := h.addAll hshape index (h.of_addAll hshape hok)
  rw [hok] at hok₁
  exact Except.ok.inj hok₁ ▸ h₁

/-- **Adding fails because of a shard of the list**, which fails a check or meets what is there. No
cell of a shard is ever outside of the matrix when it is written. -/
theorem Holds.of_addAll_eq_error (hshape : shape.IsProper) {index : Nat} {e : MergeError}
    (h : asm.Holds shape value) (herror : asm.addAll model checksum index shards = .error e) :
    ∃ k s, shards[k]? = some s
      ∧ (e = .overlap (index + k) ∨ FirstFault shape model.metric checksum (index + k) s e) := by
  induction shards generalizing asm value index with
  | nil =>
    rw [Assembly.addAll] at herror
    exact absurd herror (by simp)
  | cons s shards ih =>
    rcases hadd : asm.add model checksum index s with e' | asm₁
    · rw [addAll_cons_error hadd] at herror
      obtain rfl := Except.error.inj herror
      exact ⟨0, s, rfl, h.of_add_eq_error hshape hadd⟩
    · rw [addAll_cons hadd] at herror
      obtain ⟨k, t, hk, hculprit⟩ := ih (h.holds_of_add hshape hadd) herror
      rw [Nat.add_right_comm, Nat.add_assoc] at hculprit
      exact ⟨k + 1, t, hk, hculprit⟩

/-! ### The end of the list -/

/-- The number of marks is the size of the bitmap exactly if every place has a distance. -/
theorem Holds.countP_eq_size_iff (h : asm.Holds shape value) :
    asm.covered.countP id = asm.covered.size ↔ ∀ p < shape.cellCount, (value p).isSome := by
  rw [Array.countP_eq_size]
  constructor
  · intro hall p hp
    have hget := h.covered p hp
    have hmem : (value p).isSome ∈ asm.covered := Array.mem_of_getElem? hget
    exact hall _ hmem
  · intro hall b hb
    obtain ⟨p, hp, rfl⟩ := Array.mem_iff_getElem.mp hb
    have hp' : p < shape.cellCount := by
      rw [← h.size_eq]
      exact hp
    have hget := h.covered p hp'
    rw [Array.getElem?_eq_getElem hp] at hget
    rw [Option.some.inj hget]
    exact hall p hp'

theorem Holds.finish_eq_ok_iff (h : asm.Holds shape value) {d : DistanceMatrix} :
    asm.finish = .ok d ↔ (∀ p < shape.cellCount, (value p).isSome) ∧ asm.matrix = d := by
  rw [finish]
  split
  · next hcount =>
    rw [Except.ok.injEq]
    exact ⟨fun hd => ⟨h.countP_eq_size_iff.mp hcount, hd⟩, fun hd => hd.2⟩
  · next hcount =>
    refine iff_of_false (by simp) ?_
    rintro ⟨hall, -⟩
    exact hcount (h.countP_eq_size_iff.mpr hall)

theorem matrix_of_finish {d : DistanceMatrix} (hok : asm.finish = .ok d) : asm.matrix = d := by
  rw [finish] at hok
  split at hok
  · exact Except.ok.inj hok
  · exact absurd hok (by simp)

/-- At the end nothing can be wrong but that a place was left out. -/
theorem of_finish_eq_error {e : MergeError} (herror : asm.finish = .error e) :
    ∃ covered total, e = .incomplete covered total := by
  rw [finish] at herror
  split at herror
  · exact absurd herror (by simp)
  · exact ⟨_, _, (Except.error.inj herror).symm⟩

end Assembly

/-! ### The whole list -/

variable {shape : Shape} {metric : Metric} {checksum : UInt32} {shards shards' : List Shard}
  {d : DistanceMatrix}

/-- The shards of an exact cover are pieces of its matrix. -/
theorem IsExactCover.isPiece (h : IsExactCover shape metric checksum shards) {s : Shard}
    (hs : s ∈ shards) : IsPiece shape metric checksum s where
  shape_eq := h.tiles.shape_eq s hs
  metric_eq := h.metric_eq s hs
  checksum_eq := h.checksum_eq s hs
  filled := h.filled s hs
  inside := h.tiles.inside s hs

/-- The first shard has to be computed, for there is no checksum to go by otherwise. -/
theorem merge_cons_of_checksum_eq_none {model : Shard} {ix : Indexing}
    (hchecksum : model.checksum = none) :
    merge (model :: shards) ix = .error (.notComputed 0) := by
  rw [merge, hchecksum]

/-- The first shard has to be of an extent that a matrix can have. -/
theorem merge_cons_of_clamp?_eq_none {model : Shard} {ix : Indexing}
    (hchecksum : model.checksum = some checksum) (hclamp : model.shape.clamp? = none) :
    merge (model :: shards) ix = .error (.comparison (.invalidShape model.shape)) := by
  rw [merge, hchecksum]
  dsimp only
  rw [Assembly.start, DistanceMatrix.zero, hclamp]
  rfl

/-- Merging starts with an empty assembly, as large as the first shard says. -/
theorem merge_cons {model : Shard} {ix : Indexing} (hchecksum : model.checksum = some checksum)
    {asm : Assembly} (hstart : Assembly.start model.shape ix = .ok asm) :
    merge (model :: shards) ix
      = (asm.addAll model checksum 0 (model :: shards) ix).bind Assembly.finish := by
  rw [merge, hchecksum]
  dsimp only
  rw [hstart]
  rfl

/-- The distances of a cell, in an exact cover or beyond. -/
def cellValue (shape : Shape) (shards : List Shard) (c : Cell) : Float32 :=
  (valueAt? shards (c.position shape.columns)).getD 0

/-- **Every exact cover can be merged**, and each cell gets the distance of the shard that covers
it. -/
theorem IsExactCover.merge (h : IsExactCover shape metric checksum shards) :
    ∃ d, merge shards = .ok d ∧ d.Holds shape (cellValue shape shards) := by
  obtain ⟨model, rest, rfl⟩ := List.exists_cons_of_ne_nil (h.tiles.ne_nil h.isProper)
  have hmodel := h.isPiece List.mem_cons_self
  have hclamp : model.shape.clamp? = some shape := by
    rw [hmodel.shape_eq]
    exact Shape.clamp?_of_isProper h.isProper
  obtain ⟨asm, hstart, hasm⟩ := Assembly.holds_start hclamp
  have hfits : Assembly.Fits shape model.metric checksum (fun _ => none) (model :: rest) := by
    rw [hmodel.metric_eq]
    exact ⟨fun s hs => h.isPiece hs, h.tiles.apart, fun _ _ _ _ => rfl⟩
  obtain ⟨asm', haddAll, hasm'⟩ := hasm.addAll h.isProper 0 hfits
  refine ⟨asm'.matrix, ?_, hasm'.matrix⟩
  rw [merge_cons hmodel.checksum_eq hstart, haddAll]
  exact hasm'.finish_eq_ok_iff.mpr ⟨fun p hp => h.isSome_valueAt? hp, rfl⟩

/-- **Only exact covers can be merged.** -/
theorem isExactCover_of_merge (hok : merge shards = .ok d) :
    ∃ shape metric checksum, IsExactCover shape metric checksum shards := by
  rcases shards with _ | ⟨model, rest⟩
  · exact absurd hok (by simp [merge])
  rcases hchecksum : model.checksum with _ | checksum
  · rw [merge_cons_of_checksum_eq_none hchecksum] at hok
    exact absurd hok (by simp)
  rcases hclamp : model.shape.clamp? with _ | shape
  · rw [merge_cons_of_clamp?_eq_none hchecksum hclamp] at hok
    exact absurd hok (by simp)
  obtain ⟨asm, hstart, hasm⟩ := Assembly.holds_start hclamp
  have hshape := Shape.isProper_of_clamp? hclamp
  rw [merge_cons hchecksum hstart] at hok
  rcases haddAll : asm.addAll model checksum 0 (model :: rest) with e | asm'
  · rw [haddAll] at hok
    exact absurd hok (by simp [Except.bind])
  rw [haddAll] at hok
  have hasm' := hasm.holds_of_addAll hshape haddAll
  obtain ⟨hpiece, hapart, -⟩ := hasm.of_addAll hshape haddAll
  obtain ⟨hall, -⟩ := hasm'.finish_eq_ok_iff.mp hok
  refine ⟨shape, model.metric, checksum, hshape, ⟨fun s hs => (hpiece s hs).shape_eq,
    fun s hs => (hpiece s hs).inside, hapart, fun p hp => ?_⟩,
    fun s hs => (hpiece s hs).metric_eq, fun s hs => (hpiece s hs).checksum_eq,
    fun s hs => (hpiece s hs).filled⟩
  -- the place has a distance, so it has one from a shard
  have hsome := hall p hp
  rw [Option.none_or] at hsome
  exact (isSome_valueAt?_iff fun s hs => (hpiece s hs).filled).mp hsome

/-- **What is merged is what the shards hold.** -/
theorem IsExactCover.holds_of_merge (h : IsExactCover shape metric checksum shards)
    (hok : Shard.merge shards = .ok d) : d.Holds shape (cellValue shape shards) := by
  obtain ⟨d', hok', hd'⟩ := h.merge
  rw [hok] at hok'
  exact Except.ok.inj hok' ▸ hd'

/-- **The order of the shards does not matter.** -/
theorem merge_perm (hok : merge shards = .ok d) (hperm : shards'.Perm shards) :
    merge shards' = .ok d := by
  obtain ⟨shape, metric, checksum, h⟩ := isExactCover_of_merge hok
  obtain ⟨d', hok', hd'⟩ := (h.perm hperm).merge
  have hd := h.holds_of_merge hok
  have hd'' : d'.Holds shape (cellValue shape shards) := hd'.congr fun c hc => by
    rw [cellValue, cellValue,
      h.valueAt?_perm hperm (Shape.position_lt_cellCount h.isProper.2 hc)]
  rw [hok', hd''.eq hd]

/-- **What a merge can fail for**: there are no shards, the first one is of an extent that no matrix
has, some shard fails a check or meets an earlier one, or some place is left out. -/
theorem of_merge_eq_error {e : MergeError} (herror : merge shards = .error e) :
    e = .noShards
      ∨ (∃ model, shards.head? = some model ∧ model.shape.clamp? = none
        ∧ e = .comparison (.invalidShape model.shape))
      ∨ (∃ k s, shards[k]? = some s
        ∧ (e = .overlap k ∨ ∃ shape metric checksum, FirstFault shape metric checksum k s e))
      ∨ ∃ covered total, e = .incomplete covered total := by
  rcases shards with _ | ⟨model, rest⟩
  · exact .inl (Except.error.inj herror).symm
  rcases hchecksum : model.checksum with _ | checksum
  · rw [merge_cons_of_checksum_eq_none hchecksum] at herror
    obtain rfl := Except.error.inj herror
    -- whatever the checksum has to be, a shard without one fails the check
    exact .inr (.inr (.inl ⟨0, model, rfl, .inr ⟨model.shape, model.metric, 0,
      .computed rfl rfl (by simp [isComputed, hchecksum])⟩⟩))
  rcases hclamp : model.shape.clamp? with _ | shape
  · rw [merge_cons_of_clamp?_eq_none hchecksum hclamp] at herror
    exact .inr (.inl ⟨model, rfl, hclamp, (Except.error.inj herror).symm⟩)
  obtain ⟨asm, hstart, hasm⟩ := Assembly.holds_start hclamp
  rw [merge_cons hchecksum hstart] at herror
  rcases haddAll : asm.addAll model checksum 0 (model :: rest) with e' | asm'
  · rw [haddAll] at herror
    obtain rfl : e' = e := Except.error.inj herror
    obtain ⟨k, s, hs, hculprit⟩ :=
      hasm.of_addAll_eq_error (Shape.isProper_of_clamp? hclamp) haddAll
    rw [Nat.zero_add] at hculprit
    exact .inr (.inr (.inl ⟨k, s, hs, hculprit.imp_right fun h => ⟨_, _, _, h⟩⟩))
  · rw [haddAll] at herror
    exact .inr (.inr (.inr (Assembly.of_finish_eq_error herror)))

/-- The matrix is refused as such only if the first shard is of an extent that no matrix has. -/
theorem merge_eq_comparison {cause : ComparisonError}
    (herror : merge shards = .error (.comparison cause)) :
    ∃ model, shards.head? = some model ∧ model.shape.clamp? = none
      ∧ cause = .invalidShape model.shape := by
  rcases of_merge_eq_error herror with
    hnone | ⟨model, hhead, hclamp, hcause⟩ | ⟨k, s, -, hculprit⟩ | ⟨covered, total, hleft⟩
  · exact absurd hnone (by simp)
  · exact ⟨model, hhead, hclamp, MergeError.comparison.inj hcause⟩
  · rcases hculprit with hoverlap | ⟨shape, metric, checksum, hfault⟩
    · exact absurd hoverlap (by simp)
    · exact absurd rfl (hfault.ne_comparison cause)
  · exact absurd hleft (by simp)

/-- **Merging accepts exactly the exact covers.** The matrix that comes out has in each cell the
distance that the one shard covering it holds there, zero in every gap, and is the same in any
order. On the way no cell is outside of the matrix, and no run is longer than what is left of the
bitmap behind its start. -/
theorem merge_isOk_iff_isExactCover (shards : List Shard) :
    ((∃ d, merge shards = .ok d)
        ↔ shards ≠ [] ∧ ∃ shape metric checksum, IsExactCover shape metric checksum shards)
      ∧ (∀ d, merge shards = .ok d →
          (∀ s ∈ shards, s.shape = d.shape) ∧ d.IsWellFormed
          ∧ (∀ c ∈ d.shape, ∃ (i k : Nat) (s : Shard) (x : Float32),
              shards[i]? = some s ∧ k < s.length ∧ s.start + k = c.position d.shape.columns
              ∧ s.distances.bind (·[k]?) = some x ∧ d.get? c.row c.column = some x
              ∧ ∀ (i' : Nat) (s' : Shard), shards[i']? = some s' →
                s'.Covers (c.position d.shape.columns) → i' = i)
          ∧ (∀ slot, d.shape.IsGap slot → d.slots[slot]? = some 0)
          ∧ ∀ shards', shards'.Perm shards → merge shards' = .ok d)
      ∧ (∀ cause, merge shards = .error (.comparison cause) →
          ∃ model, shards.head? = some model ∧ model.shape.clamp? = none
            ∧ cause = .invalidShape model.shape)
      ∧ ∀ (model : Shard) (checksum : UInt32) (before : List Shard) (s : Shard)
          (after : List Shard) (empty asm : Assembly) (p : Nat), shards = before ++ s :: after →
          shards.head? = some model → model.checksum = some checksum →
          Assembly.start model.shape = .ok empty →
          empty.addAll model checksum 0 before = .ok asm →
          s.shape = asm.matrix.shape → s.start? = some p → p + s.length ≤ asm.covered.size := by
  refine ⟨⟨?_, ?_⟩, ?_, fun _ => merge_eq_comparison, ?_⟩
  · rintro ⟨d, hok⟩
    obtain ⟨shape, metric, checksum, h⟩ := isExactCover_of_merge hok
    exact ⟨h.tiles.ne_nil h.isProper, shape, metric, checksum, h⟩
  · rintro ⟨-, shape, metric, checksum, h⟩
    obtain ⟨d, hok, -⟩ := h.merge
    exact ⟨d, hok⟩
  · intro d hok
    obtain ⟨shape, metric, checksum, h⟩ := isExactCover_of_merge hok
    have hd := h.holds_of_merge hok
    obtain rfl := hd.shape_eq
    refine ⟨h.tiles.shape_eq, hd.isWellFormed h.isProper, fun c hc => ?_, hd.gap,
      fun shards' => merge_perm hok⟩
    obtain ⟨s, hs, hge, hlt⟩ :=
      h.tiles.complete _ (Shape.position_lt_cellCount h.isProper.2 hc)
    obtain ⟨distances, hsome, hlength⟩ := h.filled s hs
    obtain ⟨i, hi⟩ := List.mem_iff_getElem?.mp hs
    -- the distance of the cell stands as far behind the first one as its place is behind the start
    have hk : c.position d.shape.columns - s.start < distances.length := by omega
    refine ⟨i, c.position d.shape.columns - s.start, s,
      distances[c.position d.shape.columns - s.start], hi, by omega, by omega, ?_, ?_,
      fun i' s' hi' hcovers => h.tiles.index_unique hi' hi hcovers ⟨hge, hlt⟩⟩
    · rw [hsome]
      exact List.getElem?_eq_getElem hk
    · rw [hd.get?_eq hc, cellValue, h.valueAt?_eq hs ⟨hge, hlt⟩, value?, if_pos hge, hsome,
        Option.getD_some, List.getElem?_eq_getElem hk]
      rfl
  · intro model checksum before s after empty asm p _ _ _ hstart haddAll hshape hp
    rcases hclamp : model.shape.clamp? with _ | shape
    · rw [Assembly.start, DistanceMatrix.zero, hclamp] at hstart
      exact absurd hstart (by simp)
    · obtain ⟨empty', hstart', hempty⟩ := Assembly.holds_start hclamp
      rw [hstart] at hstart'
      obtain rfl := Except.ok.inj hstart'
      -- the bitmap has kept its size, whatever was added
      have hasm := hempty.holds_of_addAll (Shape.isProper_of_clamp? hclamp) haddAll
      obtain ⟨hinside, rfl⟩ := start?_eq_some_iff.mp hp
      have hstop := hinside.stop_le
      rw [hasm.size_eq, ← hasm.matrix.shape_eq, ← hshape]
      exact hstop

end Shard

end CrashTriage
