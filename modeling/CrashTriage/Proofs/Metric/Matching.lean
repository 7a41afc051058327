import CrashTriage.Proofs.Metric.MatchCounts
import Mathlib.Data.List.Basic
import Mathlib.Data.List.Count
import Mathlib.Data.List.Forall2
import Mathlib.Data.List.Nodup
import Mathlib.Data.List.Perm.Basic

/-!
# Which frames match

A frame takes the first position that it may take (`JaroWinkler.partner?_eq_some_iff`), whether
another frame took it before or not. Where no frame is the same as two of the other sequence, there
is only one such position, and the pairs are all positions with the same frame that are close
enough to each other (`JaroWinkler.IsOneToOne.mem_pairs_iff`). That is the same from either side, so
**the counts are, too** (`JaroWinkler.IsOneToOne.counts_comm`), and all frames match in place if and
only if the sequences are the same frame by frame (`JaroWinkler.IsOneToOne.forall₂_iff`).

In a sequence that is compared with itself every frame may stay in its place, so all of them match
(`JaroWinkler.length_pairs_self`). But a frame that is repeated within the window comes behind the
one that it takes: **no frame is displaced if none is repeated there, and only then**
(`JaroWinkler.displaced_self_eq_zero_iff`).
-/

namespace CrashTriage

namespace JaroWinkler

variable {α : Type} {same : α → α → Bool} {w : Nat} {a b l : List α} {x y : α} {i j k : Nat}

/-! ### The frame that is taken -/

/-- **A frame at position `i` may take position `j`**: the frame there is the same, and not further
away than the window. -/
def MayTake (same : α → α → Bool) (w : Nat) (b : List α) (x : α) (i j : Nat) : Prop :=
  (∃ y, b[j]? = some y ∧ same x y = true) ∧ i ≤ j + w ∧ j ≤ i + w

theorem MayTake.lt (h : MayTake same w b x i j) : j < b.length := by
  obtain ⟨⟨y, hy, -⟩, -⟩ := h
  exact (List.getElem?_eq_some_iff.mp hy).1

theorem mayTake_iff (hj : j < b.length) :
    MayTake same w b x i j ↔ (i ≤ j + w && j ≤ i + w && same x b[j]) = true := by
  rw [MayTake, List.getElem?_eq_getElem hj]
  simp only [Option.some.injEq, exists_eq_left', Bool.and_eq_true, decide_eq_true_eq]
  exact and_comm

/-- **A frame takes the first position that it may take.** -/
theorem partner?_eq_some_iff :
    partner? same w b x i = some j
      ↔ MayTake same w b x i j ∧ ∀ k < j, ¬MayTake same w b x i k := by
  rw [partner?, Option.map_eq_some_iff]
  constructor
  · rintro ⟨⟨y, k⟩, hfind, rfl⟩
    obtain ⟨htest, n, hn, hget, hbefore⟩ := List.find?_eq_some_iff_getElem.mp hfind
    rw [List.length_zipIdx] at hn
    rw [List.getElem_zipIdx, Nat.zero_add, Prod.mk.injEq] at hget
    obtain ⟨rfl, rfl⟩ := hget
    refine ⟨(mayTake_iff hn).mpr htest, fun k hk htake => ?_⟩
    have hrejected := hbefore k hk
    rw [List.getElem_zipIdx, Nat.zero_add] at hrejected
    dsimp only at hrejected
    rw [(mayTake_iff htake.lt).mp htake] at hrejected
    exact absurd hrejected (by decide)
  · rintro ⟨htake, hbefore⟩
    have hj := htake.lt
    refine ⟨(b[j], j), List.find?_eq_some_iff_getElem.mpr
      ⟨(mayTake_iff hj).mp htake, j, by rwa [List.length_zipIdx], ?_, fun k hk => ?_⟩, rfl⟩
    · rw [List.getElem_zipIdx, Nat.zero_add]
    · have hrejected := mt (mayTake_iff (hk.trans hj)).mpr (hbefore k hk)
      rw [List.getElem_zipIdx, Nat.zero_add]
      exact Bool.not_eq_true' _ |>.mpr (eq_false_of_ne_true hrejected)

/-- **A frame matches if it may take any position.** -/
theorem exists_partner? (h : MayTake same w b x i j) :
    ∃ k ≤ j, partner? same w b x i = some k := by
  induction j using Nat.strongRecOn with
  | ind j ih =>
    by_cases hbefore : ∃ k < j, MayTake same w b x i k
    · obtain ⟨k, hk, htake⟩ := hbefore
      obtain ⟨k', hle, hpartner⟩ := ih k hk htake
      exact ⟨k', by omega, hpartner⟩
    · refine ⟨j, le_rfl, partner?_eq_some_iff.mpr ⟨h, fun k hk htake => ?_⟩⟩
      exact hbefore ⟨k, hk, htake⟩

/-! ### The pairs of positions -/

theorem mem_pairs_iff :
    (i, j) ∈ pairs same a b
      ↔ ∃ x, a[i]? = some x ∧ partner? same (window a.length b.length) b x i = some j := by
  rw [pairs, List.mem_filterMap]
  constructor
  · rintro ⟨⟨x, n⟩, hmem, hpair⟩
    obtain ⟨k, hpartner, heq⟩ := Option.map_eq_some_iff.mp hpair
    rw [Prod.mk.injEq] at heq
    obtain ⟨rfl, rfl⟩ := heq
    exact ⟨x, List.mk_mem_zipIdx_iff_getElem?.mp hmem, hpartner⟩
  · rintro ⟨x, hx, hpartner⟩
    exact ⟨(x, i), List.mk_mem_zipIdx_iff_getElem?.mpr hx, Option.map_eq_some_iff.mpr
      ⟨j, hpartner, rfl⟩⟩

/-- No position of the first sequence is in two pairs. -/
theorem nodup_map_fst_pairs (same : α → α → Bool) (a b : List α) :
    ((pairs same a b).map Prod.fst).Nodup := by
  have hindices : a.zipIdx.Pairwise fun p q => p.2 ≠ q.2 := by
    have hnodup : (a.zipIdx.map Prod.snd).Nodup := by
      rw [List.zipIdx_map_snd]
      exact List.nodup_range'
    exact List.pairwise_map.mp hnodup
  refine List.pairwise_map.mpr (hindices.filterMap _ ?_)
  rintro ⟨x, i⟩ ⟨y, k⟩ hne p hp q hq
  obtain ⟨-, -, rfl⟩ := Option.map_eq_some_iff.mp hp
  obtain ⟨-, -, rfl⟩ := Option.map_eq_some_iff.mp hq
  exact hne

theorem nodup_pairs (same : α → α → Bool) (a b : List α) : (pairs same a b).Nodup :=
  (nodup_map_fst_pairs same a b).of_map _

/-- **All frames match** if each position is in a pair. -/
theorem length_pairs_eq_iff :
    (pairs same a b).length = a.length ↔ ∀ i < a.length, ∃ j, (i, j) ∈ pairs same a b := by
  have hlength : a.zipIdx.length = a.length := List.length_zipIdx
  rw [← hlength, pairs, List.filterMap_length_eq_length, hlength]
  constructor
  · intro h i hi
    have hsome := h (a[i], i) (List.mk_mem_zipIdx_iff_getElem?.mpr (List.getElem?_eq_getElem hi))
    rw [Option.isSome_map, Option.isSome_iff_exists] at hsome
    obtain ⟨j, hpartner⟩ := hsome
    exact ⟨j, mem_pairs_iff.mpr ⟨a[i], List.getElem?_eq_getElem hi, hpartner⟩⟩
  · rintro h ⟨x, i⟩ hmem
    have hx := List.mk_mem_zipIdx_iff_getElem?.mp hmem
    obtain ⟨j, hpair⟩ := h i (List.getElem?_eq_some_iff.mp hx).1
    obtain ⟨x', hx', hpartner⟩ := mem_pairs_iff.mp hpair
    obtain rfl : x' = x := Option.some.inj (hx'.symm.trans hx)
    rw [Option.isSome_map, hpartner]
    rfl

/-- **No frame is displaced** if no pair is of two positions. -/
theorem displaced_eq_zero_iff :
    (counts same a b).displaced = 0 ↔ ∀ i j, (i, j) ∈ pairs same a b → i = j := by
  rw [counts, List.countP_eq_zero]
  constructor
  · intro h i j hpair
    by_contra hne
    exact h (i, j) hpair (decide_eq_true hne)
  · rintro h ⟨i, j⟩ hpair hne
    exact of_decide_eq_true hne (h i j hpair)

/-! ### Sequences that match one to one -/

/-- **No frame is the same as two of the other sequence.** -/
structure IsOneToOne (same : α → α → Bool) (a b : List α) : Prop where
  /-- A frame of the first sequence is the same as one of the second at most. -/
  left : ∀ x ∈ a, b.countP (same x) ≤ 1
  /-- A frame of the second sequence is the same as one of the first at most. -/
  right : ∀ y ∈ b, (a.countP fun x => same x y) ≤ 1

/-- There are no two positions where one is counted. -/
theorem eq_of_countP_le_one {p : α → Bool} (h : l.countP p ≤ 1) (hx : l[i]? = some x)
    (hy : l[j]? = some y) (hpx : p x = true) (hpy : p y = true) : i = j := by
  induction l generalizing i j with
  | nil => exact absurd hx (by simp)
  | cons z zs ih =>
    -- the first element and one behind it would be two
    have hfirst (n : Nat) (u : α) : p z = true → zs[n]? = some u → p u = true → False := by
      intro hz hu hpu
      have hpos : 0 < zs.countP p := List.countP_pos_iff.mpr ⟨u, List.mem_of_getElem? hu, hpu⟩
      rw [List.countP_cons_of_pos hz] at h
      omega
    cases i with
    | zero =>
      obtain rfl : z = x := Option.some.inj hx
      cases j with
      | zero => rfl
      | succ j => exact (hfirst j y hpx hy hpy).elim
    | succ i =>
      cases j with
      | zero =>
        obtain rfl : z = y := Option.some.inj hy
        exact (hfirst i x hpy hx hpx).elim
      | succ j =>
        have hrest : zs.countP p ≤ 1 := (List.sublist_cons_self z zs).countP_le.trans h
        rw [ih hrest hx hy]

namespace IsOneToOne

theorem symm (hcomm : ∀ x y, same x y = same y x) (h : IsOneToOne same a b) :
    IsOneToOne same b a where
  left y hy := by
    have hswap : same y = fun x => same x y := funext fun x => hcomm y x
    rw [hswap]
    exact h.right y hy
  right x hx := by
    have hswap : (fun y => same y x) = same x := funext fun y => hcomm y x
    rw [hswap]
    exact h.left x hx

/-- **All positions whose frames are the same are paired**, if they are not too far apart. -/
theorem mem_pairs_iff (h : IsOneToOne same a b) :
    (i, j) ∈ pairs same a b
      ↔ ∃ x y, a[i]? = some x ∧ b[j]? = some y ∧ same x y = true
          ∧ i ≤ j + window a.length b.length ∧ j ≤ i + window a.length b.length := by
  rw [JaroWinkler.mem_pairs_iff]
  constructor
  · rintro ⟨x, hx, hpartner⟩
    obtain ⟨⟨⟨y, hy, hsame⟩, hwindow⟩, -⟩ := partner?_eq_some_iff.mp hpartner
    exact ⟨x, y, hx, hy, hsame, hwindow⟩
  · rintro ⟨x, y, hx, hy, hsame, hwindow⟩
    refine ⟨x, hx, partner?_eq_some_iff.mpr ⟨⟨⟨y, hy, hsame⟩, hwindow⟩, ?_⟩⟩
    -- a position that comes first would be a second one
    rintro k hk ⟨⟨y', hy', hsame'⟩, -⟩
    exact hk.ne (eq_of_countP_le_one (h.left x (List.mem_of_getElem? hx)) hy' hy hsame' hsame)

/-- **The pairs are the same from either side.** -/
theorem perm_pairs (hcomm : ∀ x y, same x y = same y x) (h : IsOneToOne same a b) :
    (pairs same b a).Perm ((pairs same a b).map Prod.swap) := by
  have hwindow : window b.length a.length = window a.length b.length := by
    rw [window, window, max_comm]
  refine (List.perm_ext_iff_of_nodup (nodup_pairs same b a)
    ((nodup_pairs same a b).map Prod.swap_injective)).mpr ?_
  rintro ⟨j, i⟩
  rw [List.mem_map_swap, h.mem_pairs_iff, (h.symm hcomm).mem_pairs_iff, hwindow]
  constructor
  · rintro ⟨y, x, hy, hx, hsame, hj, hi⟩
    exact ⟨x, y, hx, hy, hcomm x y ▸ hsame, hi, hj⟩
  · rintro ⟨x, y, hx, hy, hsame, hi, hj⟩
    exact ⟨y, x, hy, hx, hcomm y x ▸ hsame, hj, hi⟩

end IsOneToOne

theorem commonBeginning_comm (hcomm : ∀ x y, same x y = same y x) (a b : List α) :
    commonBeginning same b a = commonBeginning same a b := by
  induction a generalizing b with
  | nil => cases b <;> rfl
  | cons x xs ih =>
    cases b with
    | nil => rfl
    | cons y ys => rw [commonBeginning, commonBeginning, hcomm y x, ih ys]

/-- The counts as they are from the other side. -/
def Counts.swap (c : Counts) : Counts :=
  { c with left := c.right, right := c.left }

/-- **The counts are the same from either side.** -/
theorem IsOneToOne.counts_comm (hcomm : ∀ x y, same x y = same y x) (h : IsOneToOne same a b) :
    counts same b a = (counts same a b).swap := by
  have hperm := h.perm_pairs hcomm
  have hmatched : (pairs same b a).length = (pairs same a b).length := by
    rw [hperm.length_eq, List.length_map]
  have hdisplaced : (counts same b a).displaced = (counts same a b).displaced := by
    rw [counts, hperm.countP_eq, List.countP_map]
    refine List.countP_congr fun p _ => ?_
    simp only [Function.comp_apply, Prod.fst_swap, Prod.snd_swap, ne_comm]
  have hcounts : counts same b a
      = ⟨b.length, a.length, (pairs same b a).length, (counts same b a).displaced,
          min (commonBeginning same b a) beginningCap⟩ := rfl
  rw [hcounts, hmatched, hdisplaced, commonBeginning_comm hcomm]
  rfl

/-- **All frames match in place** if the sequences are the same, frame by frame. -/
theorem IsOneToOne.forall₂_iff (h : IsOneToOne same a b) :
    List.Forall₂ (fun x y => same x y = true) a b
      ↔ (counts same a b).matched = a.length ∧ (counts same a b).matched = b.length
        ∧ (counts same a b).displaced = 0 := by
  rw [List.forall₂_iff_get, displaced_eq_zero_iff]
  constructor
  · rintro ⟨hlength, hsame⟩
    have hget (i : Nat) (hi : i < a.length) : (i, i) ∈ pairs same a b :=
      h.mem_pairs_iff.mpr ⟨a[i], b[i], List.getElem?_eq_getElem hi,
        List.getElem?_eq_getElem (hlength ▸ hi), hsame i hi (hlength ▸ hi),
        Nat.le_add_right _ _, Nat.le_add_right _ _⟩
    have hmatched : (counts same a b).matched = a.length :=
      length_pairs_eq_iff.mpr fun i hi => ⟨i, hget i hi⟩
    refine ⟨hmatched, hmatched.trans hlength, fun i j hpair => ?_⟩
    -- both positions hold the frame that is the same as the one at the first
    obtain ⟨x, y, hx, hy, hxy, -⟩ := h.mem_pairs_iff.mp hpair
    obtain ⟨x', y', hx', hy', hxy', -⟩ :=
      h.mem_pairs_iff.mp (hget i (List.getElem?_eq_some_iff.mp hx).1)
    obtain rfl : x' = x := Option.some.inj (hx'.symm.trans hx)
    exact eq_of_countP_le_one (h.left x' (List.mem_of_getElem? hx)) hy' hy hxy' hxy
  · rintro ⟨hleft, hright, hplaced⟩
    refine ⟨hleft.symm.trans hright, fun i hi hi' => ?_⟩
    obtain ⟨j, hpair⟩ := length_pairs_eq_iff.mp hleft i hi
    obtain rfl := hplaced i j hpair
    obtain ⟨x, y, hx, hy, hsame, -⟩ := h.mem_pairs_iff.mp hpair
    rw [List.getElem?_eq_getElem hi] at hx
    rw [List.getElem?_eq_getElem hi'] at hy
    obtain rfl := Option.some.inj hx
    obtain rfl := Option.some.inj hy
    exact hsame

/-! ### A sequence and itself -/

/-- **No frame is the same as one in front of it within the window.** -/
def NoNearRepeat (same : α → α → Bool) (l : List α) : Prop :=
  ∀ i (hi : i < l.length) j (hj : j < i), i ≤ j + window l.length l.length →
    same l[i] l[j] = false

/-- In a short sequence the window holds no other frame. -/
theorem noNearRepeat_of_length_le (same : α → α → Bool) (h : l.length ≤ 3) :
    NoNearRepeat same l := by
  intro i _ j hj hle
  rw [window] at hle
  omega

theorem noNearRepeat_of_pairwise (h : l.Pairwise fun x y => same y x = false) :
    NoNearRepeat same l := by
  intro i hi j hj _
  exact List.pairwise_iff_getElem.mp h j i (by omega) hi hj

theorem commonBeginning_self (h : ∀ x ∈ l, same x x = true) :
    commonBeginning same l l = l.length := by
  induction l with
  | nil => rfl
  | cons x xs ih =>
    rw [commonBeginning, if_pos (h x List.mem_cons_self),
      ih fun y hy => h y (List.mem_cons_of_mem x hy), List.length_cons]

section Itself

variable (h : ∀ x ∈ l, same x x = true)
include h

/-- A frame that is the same as itself may stay in place. -/
theorem mayTake_self (w : Nat) (hi : i < l.length) : MayTake same w l l[i] i i :=
  ⟨⟨l[i], List.getElem?_eq_getElem hi, h l[i] (List.getElem_mem hi)⟩,
    Nat.le_add_right _ _, Nat.le_add_right _ _⟩

/-- **All frames match**, in their places or in front of them. -/
theorem length_pairs_self : (pairs same l l).length = l.length := by
  refine length_pairs_eq_iff.mpr fun i hi => ?_
  obtain ⟨j, -, hpartner⟩ := exists_partner? (mayTake_self h _ hi)
  exact ⟨j, mem_pairs_iff.mpr ⟨l[i], List.getElem?_eq_getElem hi, hpartner⟩⟩

/-- **No frame is displaced** if none is repeated within the window. -/
theorem displaced_self_eq_zero_iff :
    (counts same l l).displaced = 0 ↔ NoNearRepeat same l := by
  rw [displaced_eq_zero_iff]
  constructor
  · intro hplaced i hi j hj hle
    -- were it the same, the frame would take a position in front of its own
    by_contra hsame
    have htake : MayTake same (window l.length l.length) l l[i] i j :=
      ⟨⟨l[j], List.getElem?_eq_getElem (hj.trans hi), eq_true_of_ne_false hsame⟩, hle, by omega⟩
    obtain ⟨k, hk, hpartner⟩ := exists_partner? htake
    have heq := hplaced i k (mem_pairs_iff.mpr ⟨l[i], List.getElem?_eq_getElem hi, hpartner⟩)
    omega
  · intro hrepeat i j hpair
    obtain ⟨x, hx, hpartner⟩ := mem_pairs_iff.mp hpair
    obtain ⟨hi, rfl⟩ := List.getElem?_eq_some_iff.mp hx
    obtain ⟨⟨⟨y, hy, hsame⟩, hle, -⟩, hbefore⟩ := partner?_eq_some_iff.mp hpartner
    obtain ⟨hj, rfl⟩ := List.getElem?_eq_some_iff.mp hy
    rcases Nat.lt_trichotomy i j with hlt | heq | hgt
    · exact absurd (mayTake_self h _ hi) (hbefore i hlt)
    · exact heq
    · rw [hrepeat i hi j hgt hle] at hsame
      exact absurd hsame Bool.false_ne_true

/-- **The counts of a sequence and itself.** -/
theorem counts_self :
    counts same l l
      = ⟨l.length, l.length, l.length, (counts same l l).displaced, min l.length beginningCap⟩ := by
  have hcounts : counts same l l
      = ⟨l.length, l.length, (pairs same l l).length, (counts same l l).displaced,
          min (commonBeginning same l l) beginningCap⟩ := rfl
  rwa [length_pairs_self h, commonBeginning_self h] at hcounts

end Itself

end JaroWinkler

end CrashTriage
