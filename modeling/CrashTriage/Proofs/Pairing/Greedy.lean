import CrashTriage.Proofs.Pairing.Segments
import Mathlib.Data.List.Sort
import Mathlib.Order.Bounds.Basic

/-!
# The greedy alignment

The anchors are chosen frame by frame, and all that a choice takes from the choices before it is the
last anchor. So it can be told of **every frame by itself** whether it is anchored, and where
(`Pairing.mem_anchors_iff`). Let a frame be resolved:

* if it matches a position behind the last anchor, it is anchored at the first such position;
* if it does not, but is the same as the frame of the last anchor, it shares that one;
* otherwise it has no anchor, and neither has a frame that is not resolved.

A list of anchors of which this is true, and which is in order and inside the sequences, is a **greedy
alignment** (`Pairing.IsGreedyAlignment`). Two sequences have exactly one: a list that meets the
description can only be that of the anchors (`Pairing.anchors_isGreedyAlignment`), since what it has
in front of a frame settles what it has at the frame.
-/

namespace CrashTriage

namespace Pairing

variable {α : Type} {same : α → α → Bool} {resolved : α → Bool} {a b : List α}
  {last : Option Nat} {i j k : Nat} {x : α} {xs : List α} {c : Anchor} {cs ds : List Anchor}

/-! ### The last anchor -/

/-- The last of some anchors in front of a frame of the first sequence. -/
def lastBefore? (cs : List Anchor) (i : Nat) : Option Anchor :=
  (cs.filter fun c => c.left < i).getLast?

/-- The position of the last anchor in front of a frame, where the one before all anchors may be
given. -/
def lastRight? (last : Option Nat) (cs : List Anchor) (i : Nat) : Option Nat :=
  ((lastBefore? cs i).map Anchor.right).or last

theorem lastRight?_of_le (h : ∀ c ∈ cs, i ≤ c.left) : lastRight? last cs i = last := by
  have hnil : (cs.filter fun c => c.left < i) = [] := by
    refine List.filter_eq_nil_iff.mpr fun c hc => ?_
    simpa using h c hc
  rw [lastRight?, lastBefore?, hnil]
  rfl

theorem lastRight?_cons (h : c.left < i) :
    lastRight? last (c :: cs) i = lastRight? (some c.right) cs i := by
  rw [lastRight?, lastRight?, lastBefore?, lastBefore?, List.filter_cons_of_pos (by simpa using h),
    List.getLast?_cons]
  cases (cs.filter fun c => c.left < i).getLast? <;> rfl

/-! ### The choice for each frame -/

/-- The first of some frames is anchored where the choice for it is. -/
theorem mem_anchorsFrom_cons_iff :
    ⟨i, j⟩ ∈ anchorsFrom same resolved b last i (x :: xs)
      ↔ chosen? same resolved b last x = some j := by
  -- the anchors of the other frames are further in
  have hrest : ∀ last', (⟨i, j⟩ : Anchor) ∉ anchorsFrom same resolved b last' (i + 1) xs :=
    fun last' hmem => absurd (le_of_mem_anchorsFrom hmem).1 (Nat.not_succ_le_self i)
  rcases hchosen : chosen? same resolved b last x with _ | j'
  · rw [anchorsFrom_cons_of_none hchosen]
    exact iff_of_false (hrest last) (by simp)
  · rw [anchorsFrom_cons_of_some hchosen, List.mem_cons, or_iff_left (hrest _), Anchor.mk.injEq,
      Option.some.injEq, and_iff_right rfl, eq_comm]

/-- Among the frames from position `i` on, the `k`-th is anchored where the choice for it is; the
last anchor in front of it is one of theirs, or else the one given. -/
theorem mem_anchorsFrom_iff :
    ⟨i + k, j⟩ ∈ anchorsFrom same resolved b last i xs
      ↔ ∃ x, xs[k]? = some x
        ∧ chosen? same resolved b
            (lastRight? last (anchorsFrom same resolved b last i xs) (i + k)) x = some j := by
  induction xs generalizing last i k with
  | nil => simp [anchorsFrom]
  | cons x xs ih =>
    rcases k with _ | k
    · rw [Nat.add_zero, mem_anchorsFrom_cons_iff,
        lastRight?_of_le fun c hc => (le_of_mem_anchorsFrom hc).1]
      simp
    · rw [← Nat.succ_add_eq_add_succ, List.getElem?_cons_succ]
      rcases hchosen : chosen? same resolved b last x with _ | j'
      · rw [anchorsFrom_cons_of_none hchosen]
        exact ih
      · -- from here on the anchor of the first frame is the last one
        have hne : (⟨i + 1 + k, j⟩ : Anchor) ≠ ⟨i, j'⟩ := by
          intro heq
          have hleft := congrArg Anchor.left heq
          dsimp only at hleft
          omega
        rw [anchorsFrom_cons_of_some hchosen, lastRight?_cons (by dsimp only; omega),
          List.mem_cons, or_iff_right hne]
        exact ih

/-- **A frame is anchored where the choice for it is**, given the last anchor in front of it. -/
theorem mem_anchors_iff :
    ⟨i, j⟩ ∈ anchors same resolved a b
      ↔ ∃ x, a[i]? = some x
        ∧ chosen? same resolved b
            ((lastBefore? (anchors same resolved a b) i).map Anchor.right) x = some j := by
  have h : ⟨0 + i, j⟩ ∈ anchorsFrom same resolved b none 0 a ↔ _ := mem_anchorsFrom_iff
  rwa [Nat.zero_add, lastRight?, Option.or_none] at h

/-! ### Greedy alignments -/

/-- The position from which on a frame looks for its match: behind the last anchor, or from the
first position on if there is none. -/
def startAt (cs : List Anchor) (i : Nat) : Nat :=
  (lastBefore? cs i).elim 0 (·.right + 1)

/-- **A greedy alignment of two sequences.** With the last of the anchors in front of a frame, it is
settled whether the frame has an anchor, and where. -/
structure IsGreedyAlignment (same : α → α → Bool) (resolved : α → Bool) (a b : List α)
    (cs : List Anchor) : Prop where
  /-- The anchors rise on the left and never fall on the right. -/
  rising : cs.Pairwise Anchor.Before
  /-- They are positions of the sequences. -/
  inside : ∀ c ∈ cs, c.left < a.length ∧ c.right < b.length
  /-- A frame is anchored behind the last anchor exactly if it is resolved and matches a position
  there. -/
  ahead_iff : ∀ i x, a[i]? = some x →
    ((∃ j, startAt cs i ≤ j ∧ ⟨i, j⟩ ∈ cs)
      ↔ resolved x = true ∧ ∃ j, startAt cs i ≤ j ∧ IsMatch same resolved b x j)
  /-- And then it is anchored at the first such position. -/
  nearest : ∀ i x j, a[i]? = some x → startAt cs i ≤ j → ⟨i, j⟩ ∈ cs →
    IsLeast {k | startAt cs i ≤ k ∧ IsMatch same resolved b x k} j
  /-- A frame shares the last anchor exactly if it is resolved, matches no position behind, and is
  the same as the frame there. -/
  shared_iff : ∀ i x c, a[i]? = some x → lastBefore? cs i = some c →
    (⟨i, c.right⟩ ∈ cs ↔ resolved x = true
      ∧ (∀ j, startAt cs i ≤ j → ¬IsMatch same resolved b x j)
      ∧ ∃ y, b[c.right]? = some y ∧ same x y = true)
  /-- There are no other anchors. -/
  only : ∀ i j, ⟨i, j⟩ ∈ cs → startAt cs i ≤ j ∨ ∃ c, lastBefore? cs i = some c ∧ j = c.right

/-! ### The choice in words -/

theorem startAt_eq (h : lastBefore? cs i = some c) : startAt cs i = c.right + 1 := by
  rw [startAt, h]
  rfl

theorem elim_map_lastBefore? (cs : List Anchor) (i : Nat) :
    ((lastBefore? cs i).map Anchor.right).elim 0 (· + 1) = startAt cs i := by
  rw [startAt]
  cases lastBefore? cs i <;> rfl

/-- The nearest position is the least match from the start on. -/
theorem nearest?_eq_some_iff_isLeast {start : Nat} :
    nearest? same resolved b x start = some j
      ↔ IsLeast {k | start ≤ k ∧ IsMatch same resolved b x k} j := by
  rw [nearest?_eq_some_iff]
  constructor
  · rintro ⟨hstart, hj, hbefore⟩
    exact ⟨⟨hstart, hj⟩, fun k hk => Nat.not_lt.mp fun hkj => hbefore k hk.1 hkj hk.2⟩
  · rintro ⟨⟨hstart, hj⟩, hleast⟩
    exact ⟨hstart, hj, fun k hk hkj hmatch => Nat.not_le_of_lt hkj (hleast ⟨hk, hmatch⟩)⟩

/-- Where there is a match from the start on, there is a least one. -/
theorem exists_isLeast_isMatch {start : Nat} (hle : start ≤ k) (hk : IsMatch same resolved b x k) :
    ∃ j, IsLeast {k | start ≤ k ∧ IsMatch same resolved b x k} j := by
  rcases hnearest : nearest? same resolved b x start with _ | j
  · exact absurd hk (nearest?_eq_none_iff.mp hnearest k hle)
  · exact ⟨j, nearest?_eq_some_iff_isLeast.mp hnearest⟩

/-- The choice for a frame is the least match from the start on, or that of the last anchor. -/
theorem chosen?_lastBefore?_eq_some_iff :
    chosen? same resolved b ((lastBefore? cs i).map Anchor.right) x = some j
      ↔ resolved x = true
        ∧ (IsLeast {k | startAt cs i ≤ k ∧ IsMatch same resolved b x k} j
          ∨ (∀ k, startAt cs i ≤ k → ¬IsMatch same resolved b x k)
            ∧ (∃ c, lastBefore? cs i = some c ∧ c.right = j)
            ∧ ∃ y, b[j]? = some y ∧ same x y = true) := by
  rw [chosen?_eq_some_iff, elim_map_lastBefore?, nearest?_eq_some_iff_isLeast,
    nearest?_eq_none_iff, shared?_eq_some_iff, Option.map_eq_some_iff]

/-- **Behind the last anchor, the least match is chosen.** -/
theorem chosen?_eq_some_iff_of_le (hle : startAt cs i ≤ j) :
    chosen? same resolved b ((lastBefore? cs i).map Anchor.right) x = some j
      ↔ resolved x = true
        ∧ IsLeast {k | startAt cs i ≤ k ∧ IsMatch same resolved b x k} j := by
  rw [chosen?_lastBefore?_eq_some_iff, or_iff_left]
  rintro ⟨-, ⟨c, hc, rfl⟩, -⟩
  rw [startAt_eq hc] at hle
  exact absurd hle (Nat.not_succ_le_self _)

/-- **The last anchor is chosen if there is no match behind.** -/
theorem chosen?_eq_some_iff_of_last (hc : lastBefore? cs i = some c) :
    chosen? same resolved b ((lastBefore? cs i).map Anchor.right) x = some c.right
      ↔ resolved x = true
        ∧ (∀ k, startAt cs i ≤ k → ¬IsMatch same resolved b x k)
        ∧ ∃ y, b[c.right]? = some y ∧ same x y = true := by
  have hbehind : ¬IsLeast {k | startAt cs i ≤ k ∧ IsMatch same resolved b x k} c.right := by
    rintro ⟨⟨hle, -⟩, -⟩
    rw [startAt_eq hc] at hle
    exact absurd hle (Nat.not_succ_le_self _)
  rw [chosen?_lastBefore?_eq_some_iff, or_iff_right hbehind]
  exact and_congr_right fun _ => and_congr_right fun _ => and_iff_right ⟨c, hc, rfl⟩

/-- There is no other choice. -/
theorem chosen?_cases
    (h : chosen? same resolved b ((lastBefore? cs i).map Anchor.right) x = some j) :
    startAt cs i ≤ j ∨ ∃ c, lastBefore? cs i = some c ∧ j = c.right := by
  obtain ⟨-, hleast | ⟨-, ⟨c, hc, rfl⟩, -⟩⟩ := chosen?_lastBefore?_eq_some_iff.mp h
  · exact Or.inl hleast.1.1
  · exact Or.inr ⟨c, hc, rfl⟩

/-! ### There is one greedy alignment -/

/-- A list of anchors in order is a greedy alignment if every frame is anchored where the choice for
it is. -/
theorem isGreedyAlignment_of_mem_iff (hrising : cs.Pairwise Anchor.Before)
    (hmem : ∀ i j, ⟨i, j⟩ ∈ cs ↔ ∃ x, a[i]? = some x
      ∧ chosen? same resolved b ((lastBefore? cs i).map Anchor.right) x = some j) :
    IsGreedyAlignment same resolved a b cs := by
  have hmem' : ∀ i x j, a[i]? = some x → (⟨i, j⟩ ∈ cs
      ↔ chosen? same resolved b ((lastBefore? cs i).map Anchor.right) x = some j) := by
    intro i x j hx
    rw [hmem]
    exact ⟨fun ⟨y, hy, hchosen⟩ => Option.some.inj (hx.symm.trans hy) ▸ hchosen,
      fun hchosen => ⟨x, hx, hchosen⟩⟩
  refine ⟨hrising, ?inside, ?ahead_iff, ?nearest, ?shared_iff, ?only⟩
  case inside =>
    rintro ⟨i, j⟩ hc
    obtain ⟨x, hx, hchosen⟩ := (hmem i j).mp hc
    obtain ⟨-, y, hy, -⟩ := of_chosen?_eq_some hchosen
    exact ⟨(List.getElem?_eq_some_iff.mp hx).1, (List.getElem?_eq_some_iff.mp hy).1⟩
  case ahead_iff =>
    intro i x hx
    constructor
    · rintro ⟨j, hle, hc⟩
      obtain ⟨hresolved, hleast⟩ := (chosen?_eq_some_iff_of_le hle).mp ((hmem' i x j hx).mp hc)
      exact ⟨hresolved, j, hleast.1⟩
    · rintro ⟨hresolved, k, hk⟩
      obtain ⟨j, hj⟩ := exists_isLeast_isMatch hk.1 hk.2
      exact ⟨j, hj.1.1, (hmem' i x j hx).mpr
        ((chosen?_eq_some_iff_of_le hj.1.1).mpr ⟨hresolved, hj⟩)⟩
  case nearest =>
    intro i x j hx hle hc
    exact ((chosen?_eq_some_iff_of_le hle).mp ((hmem' i x j hx).mp hc)).2
  case shared_iff =>
    intro i x c hx hc
    exact (hmem' i x c.right hx).trans (chosen?_eq_some_iff_of_last hc)
  case only =>
    intro i j hc
    obtain ⟨x, -, hchosen⟩ := (hmem i j).mp hc
    exact chosen?_cases hchosen

/-- **A greedy alignment anchors every frame where the choice for it is.** -/
theorem IsGreedyAlignment.mem_iff (h : IsGreedyAlignment same resolved a b cs) :
    ⟨i, j⟩ ∈ cs ↔ ∃ x, a[i]? = some x
      ∧ chosen? same resolved b ((lastBefore? cs i).map Anchor.right) x = some j := by
  constructor
  · intro hc
    have hx := List.getElem?_eq_getElem (h.inside _ hc).1
    refine ⟨_, hx, ?_⟩
    rcases h.only i j hc with hle | ⟨c, hlast, rfl⟩
    · exact (chosen?_eq_some_iff_of_le hle).mpr
        ⟨((h.ahead_iff i _ hx).mp ⟨j, hle, hc⟩).1, h.nearest i _ j hx hle hc⟩
    · exact (chosen?_eq_some_iff_of_last hlast).mpr ((h.shared_iff i _ c hx hlast).mp hc)
  · rintro ⟨x, hx, hchosen⟩
    rcases chosen?_cases hchosen with hle | ⟨c, hlast, rfl⟩
    · -- an anchor behind the last one is at the least match, and so is the choice
      obtain ⟨hresolved, hleast⟩ := (chosen?_eq_some_iff_of_le hle).mp hchosen
      obtain ⟨k, hk, hc⟩ := (h.ahead_iff i x hx).mpr ⟨hresolved, j, hleast.1⟩
      obtain rfl : k = j := (h.nearest i x k hx hk hc).unique hleast
      exact hc
    · exact (h.shared_iff i x c hx hlast).mpr ((chosen?_eq_some_iff_of_last hlast).mp hchosen)

instance : Std.Irrefl Anchor.Before where
  irrefl _ h := Nat.lt_irrefl _ h.1

instance : Std.Antisymm Anchor.Before where
  antisymm _ _ h h' := absurd h.1 (Nat.lt_asymm h'.1)

/-- **There is at most one greedy alignment.** What two of them have in front of a frame is the same,
frame by frame, so the choice for the next frame is as well. -/
theorem IsGreedyAlignment.eq (h : IsGreedyAlignment same resolved a b cs)
    (h' : IsGreedyAlignment same resolved a b ds) : cs = ds := by
  have hbefore : ∀ n, ∀ c : Anchor, c.left < n → (c ∈ cs ↔ c ∈ ds) := by
    intro n
    induction n with
    | zero => exact fun c hc => absurd hc (Nat.not_lt_zero _)
    | succ n ih =>
      rintro ⟨i, j⟩ hc
      rcases Nat.lt_succ_iff_lt_or_eq.mp hc with hlt | rfl
      · exact ih _ hlt
      · have hfilter : (cs.filter fun c => c.left < i) = ds.filter fun c => c.left < i := by
          refine (h.rising.filter _).eq_of_mem_iff (h'.rising.filter _) fun d => ?_
          rw [List.mem_filter, List.mem_filter]
          exact and_congr_left fun hd => ih d (by simpa using hd)
        rw [h.mem_iff, h'.mem_iff, lastBefore?, lastBefore?, hfilter]
  exact h.rising.eq_of_mem_iff h'.rising fun c => hbefore (c.left + 1) c (Nat.lt_succ_self _)

/-- **The anchors are the greedy alignment** of two sequences, for any notion of a resolved frame and
of the same frame: they are one, and there is no other one. -/
theorem anchors_isGreedyAlignment (same : α → α → Bool) (resolved : α → Bool) (a b : List α) :
    IsGreedyAlignment same resolved a b (anchors same resolved a b)
      ∧ ∀ cs, IsGreedyAlignment same resolved a b cs → cs = anchors same resolved a b := by
  have hanchors : IsGreedyAlignment same resolved a b (anchors same resolved a b) :=
    isGreedyAlignment_of_mem_iff pairwise_anchors fun i j => mem_anchors_iff
  exact ⟨hanchors, fun cs hcs => hcs.eq hanchors⟩

/-- A recursion that is one call deeper on the left shares its last anchor, and one that is deeper on
the right leaves its last calls alone. -/
example :
    anchors (· == ·) (· != 0) [1, 2, 2, 0, 3] [2, 1, 2, 0, 3, 3] = [⟨0, 1⟩, ⟨1, 2⟩, ⟨2, 2⟩, ⟨4, 4⟩] := by
  decide

end Pairing

end CrashTriage
