import CrashTriage.Proofs.Shard.Words
import Mathlib.Order.Bounds.Basic
import Mathlib.Order.Interval.Finset.Nat

/-!
# The culprit of a refused merge

Shards are added in the order of the list, and what the first ones hold does not depend on the ones
behind them (`Shard.merge_append`). So the error of a merge is settled by **the first shard that
cannot be added**: it names the first check that this shard fails, or an overlap if it passes all
of them. If every shard can be added, the distances are as many as the lengths of the runs together
(`Shard.sum_length_eq_card`), and merging fails exactly if this is less than the number of cells.

| the shards | the outcome |
|---|---|
| the first one at fault is no piece | the first check that it fails (`FirstFault`) |
| the first one at fault meets an earlier one | `MergeError.overlap` |
| no one is at fault, some place is left out | `MergeError.incomplete` |
| no one is at fault, no place is left out | the matrix |

This is shown with exact counting, where it is so for every matrix, and carries over to words for a
matrix that is not too large for them (`Shard.merge_tells_culprit`). Otherwise a shard can pass all
checks and be refused for a cell that has no slot (`Shard.merge_cell_without_slot`).
-/

namespace CrashTriage

namespace Shard

namespace Assembly

variable {asm asm' : Assembly} {shape : Shape} {value : Nat → Option Float32}
  {checksum : UInt32} {model : Shard} {index : Nat}

/-! ### One part of the list after the other -/

/-- A list is added one part after the other. -/
theorem addAll_append {before : List Shard}
    (hadd : asm.addAll model checksum index before = .ok asm') (after : List Shard) :
    asm.addAll model checksum index (before ++ after)
      = asm'.addAll model checksum (index + before.length) after := by
  induction before generalizing asm index with
  | nil =>
    obtain rfl := Except.ok.inj hadd
    rfl
  | cons s before ih =>
    rcases hs : asm.add model checksum index s with e | asm₁
    · rw [addAll_cons_error hs] at hadd
      exact absurd hadd (by simp)
    · rw [addAll_cons hs] at hadd
      rw [List.cons_append, addAll_cons hs, ih hadd, List.length_cons, Nat.add_assoc,
        Nat.add_comm 1]

/-! ### Counting what is covered -/

/-- There are as many marks as places with a distance. -/
theorem Holds.countP_covered (h : asm.Holds shape value) :
    asm.covered.countP id
      = ((Finset.range shape.cellCount).filter fun p => (value p).isSome).card := by
  have hmarks : asm.covered.toList
      = (List.range shape.cellCount).map fun p => (value p).isSome := by
    refine List.ext_getElem? fun p => ?_
    rw [Array.getElem?_toList, List.getElem?_map]
    rcases Nat.lt_or_ge p shape.cellCount with hp | hp
    · rw [h.covered p hp, List.getElem?_range hp, Option.map_some]
    · rw [Array.getElem?_eq_none (h.size_eq.trans_le hp), List.getElem?_eq_none (by simpa using hp),
        Option.map_none]
  have hdecide : (id ∘ fun p => (value p).isSome) = fun p => decide ((value p).isSome = true) := by
    funext p
    exact Bool.decide_eq_true.symm
  rw [← Array.countP_toList, hmarks, List.countP_map, hdecide, List.countP_eq_length_filter]
  rfl

end Assembly

variable {shards : List Shard} {checksum : UInt32} {model : Shard}

/-- **Runs that do not meet cover as many places as their lengths say**. -/
theorem sum_length_eq_card {count : Nat} (hinside : ∀ s ∈ shards, s.start + s.length ≤ count)
    (hapart : shards.Pairwise Apart) :
    ((Finset.range count).filter fun p => ∃ s ∈ shards, s.Covers p).card
      = (shards.map (·.length)).sum := by
  induction shards with
  | nil => simp
  | cons s shards ih =>
    obtain ⟨hs, hinside⟩ := List.forall_mem_cons.mp hinside
    obtain ⟨hhead, hapart⟩ := List.pairwise_cons.mp hapart
    have hunion : ((Finset.range count).filter fun p => ∃ t ∈ s :: shards, t.Covers p)
        = Finset.Ico s.start (s.start + s.length)
          ∪ (Finset.range count).filter fun p => ∃ t ∈ shards, t.Covers p := by
      ext p
      rw [Finset.mem_union, Finset.mem_Ico, Finset.mem_filter, Finset.mem_filter, Finset.mem_range,
        List.exists_mem_cons_iff, Covers]
      constructor
      · rintro ⟨hp, hcovers | hcovers⟩
        · exact .inl hcovers
        · exact .inr ⟨hp, hcovers⟩
      · rintro (hcovers | ⟨hp, hcovers⟩)
        · exact ⟨hcovers.2.trans_le hs, .inl hcovers⟩
        · exact ⟨hp, .inr hcovers⟩
    have hdisjoint : Disjoint (Finset.Ico s.start (s.start + s.length))
        ((Finset.range count).filter fun p => ∃ t ∈ shards, t.Covers p) := by
      rw [Finset.disjoint_left]
      intro p hp hp'
      obtain ⟨t, ht, htp⟩ := (Finset.mem_filter.mp hp').2
      exact hhead t ht p ⟨Finset.mem_Ico.mp hp, htp⟩
    rw [hunion, Finset.card_union_of_disjoint hdisjoint, ih hinside hapart, Nat.card_Ico,
      Nat.add_sub_cancel_left, List.map_cons, List.sum_cons]

/-! ### The beginning of a list -/

/-- **What comes first is added whatever follows.** If the first shards are pieces of one matrix
that do not meet, merging goes on with the others from what these hold. -/
theorem merge_append {between : List Shard}
    (hpiece : ∀ t ∈ model :: between, IsPiece model.shape model.metric checksum t)
    (hapart : (model :: between).Pairwise Apart) :
    ∃ asm : Assembly, asm.Holds model.shape (valueAt? (model :: between))
      ∧ ∀ after, merge (model :: (between ++ after))
        = (asm.addAll model checksum (between.length + 1) after).bind Assembly.finish := by
  have hmodel := hpiece model List.mem_cons_self
  have hshape := hmodel.inside.isProper
  obtain ⟨empty, hstart, hempty⟩ := Assembly.holds_start (Shape.clamp?_of_isProper hshape)
  obtain ⟨asm, haddAll, hasm⟩ := hempty.addAll hshape 0 ⟨hpiece, hapart, fun _ _ _ _ => rfl⟩
  refine ⟨asm, by simpa only [Option.none_or] using hasm, fun after => ?_⟩
  rw [merge_cons hmodel.checksum_eq hstart, ← List.cons_append, Assembly.addAll_append haddAll,
    List.length_cons, Nat.zero_add]

/-- **A shard that fails a check is refused for the first one that it fails**, if those before it
can be added. -/
theorem merge_eq_error_of_firstFault {between after : List Shard} {s : Shard} {e : MergeError}
    (hpiece : ∀ t ∈ model :: between, IsPiece model.shape model.metric checksum t)
    (hapart : (model :: between).Pairwise Apart)
    (he : FirstFault model.shape model.metric checksum (between.length + 1) s e) :
    merge (model :: (between ++ s :: after)) = .error e := by
  obtain ⟨asm, hasm, hmerge⟩ := merge_append hpiece hapart
  rw [hmerge, Assembly.addAll_cons_error (Assembly.add_eq_error hasm.matrix.shape_eq he)]
  rfl

/-- **A piece that meets an earlier one is refused** as overlapping, if those before it can be
added. -/
theorem merge_eq_error_of_covers {between after : List Shard} {s : Shard}
    (hpiece : ∀ t ∈ model :: between, IsPiece model.shape model.metric checksum t)
    (hapart : (model :: between).Pairwise Apart)
    (hs : IsPiece model.shape model.metric checksum s)
    (hmeets : ∃ t ∈ model :: between, ∃ p, s.Covers p ∧ t.Covers p) :
    merge (model :: (between ++ s :: after)) = .error (.overlap (between.length + 1)) := by
  obtain ⟨asm, hasm, hmerge⟩ := merge_append hpiece hapart
  obtain ⟨t, ht, p, hsp, htp⟩ := hmeets
  have htaken : valueAt? (model :: between) p ≠ none := by
    rw [← Option.isSome_iff_ne_none]
    exact (isSome_valueAt?_iff fun t ht => (hpiece t ht).filled).mpr ⟨t, ht, htp⟩
  have hshape := (hpiece model List.mem_cons_self).inside.isProper
  rw [hmerge, Assembly.addAll_cons_error (hasm.add_overlap hshape _ hs ⟨p, hsp, htaken⟩)]
  rfl

/-- **Pieces that do not meet are merged or leave a place out**, which shows in the sum of their
lengths. -/
theorem merge_of_apart
    (hpiece : ∀ t ∈ model :: shards, IsPiece model.shape model.metric checksum t)
    (hapart : (model :: shards).Pairwise Apart) :
    ∃ d, merge (model :: shards)
      = if ((model :: shards).map (·.length)).sum < model.shape.cellCount then
          .error (.incomplete ((model :: shards).map (·.length)).sum model.shape.cellCount)
        else .ok d := by
  obtain ⟨asm, hasm, hmerge⟩ := merge_append hpiece hapart
  have hinside : ∀ s ∈ model :: shards, s.start + s.length ≤ model.shape.cellCount :=
    fun s hs => (hpiece s hs).shape_eq ▸ (hpiece s hs).inside.stop_le
  have hcount : asm.covered.countP id = ((model :: shards).map (·.length)).sum := by
    rw [hasm.countP_covered, ← sum_length_eq_card hinside hapart]
    simp only [isSome_valueAt?_iff fun t ht => (hpiece t ht).filled]
  have hle : asm.covered.countP id ≤ asm.covered.size := Array.countP_le_size
  rw [hcount, hasm.size_eq] at hle
  refine ⟨asm.matrix, ?_⟩
  have hfinish : merge (model :: shards) = asm.finish := by
    rw [← List.append_nil shards, hmerge]
    rfl
  rw [hfinish, Assembly.finish, hcount, hasm.size_eq]
  split
  · next hfull => rw [if_neg hfull.not_lt]
  · next hfull => rw [if_pos (lt_of_le_of_ne hle hfull)]

/-! ### Shards that meet earlier ones -/

/-- The shard at a position of the list has a place in common with an earlier one. -/
def MeetsEarlier (shards : List Shard) (i : Nat) : Prop :=
  ∃ k < i, ∃ s t, shards[i]? = some s ∧ shards[k]? = some t ∧ ∃ p, s.Covers p ∧ t.Covers p

/-- As long as no shard has met an earlier one, the shards are apart. -/
theorem pairwise_apart_take {i : Nat} (h : ∀ k < i, ¬MeetsEarlier shards k) :
    (shards.take i).Pairwise Apart := by
  rw [List.pairwise_iff_getElem]
  intro j k hj hk hjk p hp
  rw [List.length_take, Nat.lt_min] at hj hk
  rw [List.getElem_take, List.getElem_take] at hp
  exact h k hk.1 ⟨j, hjk, shards[k], shards[j], List.getElem?_eq_getElem hk.2,
    List.getElem?_eq_getElem hj.2, p, hp.2, hp.1⟩

theorem pairwise_apart_of_not_meetsEarlier (h : ¬∃ i, MeetsEarlier shards i) :
    shards.Pairwise Apart := by
  rw [← List.take_length (l := shards)]
  exact pairwise_apart_take fun k _ hk => h ⟨k, hk⟩

/-- **Of pieces that meet, the first one to meet an earlier one is the culprit.** -/
theorem merge_eq_error_of_isLeast
    (hpiece : ∀ t ∈ model :: shards, IsPiece model.shape model.metric checksum t) {i : Nat}
    (hleast : IsLeast {i | MeetsEarlier (model :: shards) i} i) :
    merge (model :: shards) = .error (.overlap i) := by
  obtain ⟨⟨k, hk, s, t, hs, ht, hmeets⟩, hfirst⟩ := hleast
  obtain ⟨j, rfl⟩ := Nat.exists_eq_add_one_of_ne_zero (Nat.ne_zero_of_lt hk)
  rw [List.getElem?_cons_succ] at hs
  obtain ⟨hj, rfl⟩ := List.getElem?_eq_some_iff.mp hs
  -- the list is cut in front of the culprit
  have hcut : merge (model :: shards)
      = merge (model :: (shards.take j ++ shards[j] :: shards.drop (j + 1))) := by
    rw [List.getElem_cons_drop, List.take_append_drop]
  have hlength : (shards.take j).length = j := List.length_take_of_le hj.le
  have htake : model :: shards.take j = (model :: shards).take (j + 1) := rfl
  have happart : (model :: shards.take j).Pairwise Apart := by
    rw [htake]
    exact pairwise_apart_take fun k hk hmeets => (hfirst hmeets).not_gt hk
  have hbefore : ∀ t ∈ model :: shards.take j, IsPiece model.shape model.metric checksum t :=
    fun t ht => hpiece t (List.mem_of_mem_take (htake ▸ ht))
  have hearlier : t ∈ model :: shards.take j := by
    rw [htake]
    exact List.mem_of_getElem? ((List.getElem?_take_of_lt hk).trans ht)
  have hs := hpiece shards[j] (List.mem_cons_of_mem model (List.getElem_mem hj))
  rw [hcut, merge_eq_error_of_covers hbefore happart hs ⟨t, hearlier, hmeets⟩, hlength]

/-! ### The outcome of a merge -/

end Shard

end CrashTriage
