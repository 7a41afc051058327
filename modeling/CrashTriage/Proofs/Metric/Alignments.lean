import CrashTriage.Proofs.Metric.EditTable
import Mathlib.Algebra.BigOperators.Group.List.Basic
import Mathlib.Algebra.GroupWithZero.Nat
import Mathlib.Order.Bounds.Basic

/-!
# Edits and alignments

An **alignment** of two sequences puts some of their frames side by side, keeping the order of both:
a frame beside a frame, or – where swaps are allowed – two neighbours beside two neighbours,
crosswise and each beside one that is the same (`Edit.IsAlignment`). A frame that has none beside it
costs an edit, and so do two different frames side by side and two neighbours beside two others.

The number of edits **is the least cost of an alignment** (`Edit.count_isLeast_alignmentCost`). The
links of an alignment lead through the table of counts, and no entry on that way rises by more than
what is paid for (`Edit.table_le_of_links`); and for each entry of the table there is an alignment
of the two beginnings that costs just that (`Edit.exists_alignment_table`).
-/

namespace CrashTriage

namespace Edit

variable {α : Type} {same : α → α → Bool} {swaps : Bool} {a b : List α} {i j : Nat}

/-! ### Alignments -/

/-- What an alignment of two sequences puts side by side. -/
inductive Link where
  /-- Frame `i` of the first sequence and frame `j` of the second one. -/
  | pair (i j : Nat)
  /-- Frame `i` of the first sequence and frame `j + 1` of the second one, and frame `i + 1` of the
  first sequence and frame `j` of the second one. -/
  | cross (i j : Nat)
deriving DecidableEq, Repr

namespace Link

/-- The first position in the first sequence. -/
def left : Link → Nat
  | pair i _ | cross i _ => i

/-- The first position in the second sequence. -/
def right : Link → Nat
  | pair _ j | cross _ j => j

/-- How many frames of each sequence there are. -/
def width : Link → Nat
  | pair _ _ => 1
  | cross _ _ => 2

/-- The frames are in front of those of another link, in both sequences. -/
def Before (l l' : Link) : Prop :=
  l.left + l.width ≤ l'.left ∧ l.right + l.width ≤ l'.right

/-- The sequences have the frames, and those that are linked crosswise are the same. -/
def Fits (same : α → α → Bool) (swaps : Bool) (a b : List α) : Link → Prop
  | pair i j => i < a.length ∧ j < b.length
  | cross i j =>
    swaps = true ∧ ∃ x x' y y', a[i]? = some x ∧ a[i + 1]? = some x' ∧ b[j]? = some y
      ∧ b[j + 1]? = some y' ∧ same x y' = true ∧ same x' y = true

/-- What the frames side by side cost. -/
def cost (same : α → α → Bool) (a b : List α) : Link → Nat
  | pair i j => replaceCostAt same a b i j
  | cross _ _ => 1

end Link

/-- **An alignment of two sequences**: its links are one behind the other in both. -/
structure IsAlignment (same : α → α → Bool) (swaps : Bool) (a b : List α) (links : List Link) :
    Prop where
  /-- The frames are there, and crosswise they are the same. -/
  fits : ∀ l ∈ links, l.Fits same swaps a b
  /-- The order of both sequences is kept. -/
  ordered : links.Pairwise Link.Before

/-- How many frames of each sequence are linked. -/
def linked (links : List Link) : Nat :=
  (links.map Link.width).sum

/-- **The cost of an alignment**: one edit for each frame that is not linked, on either side, and
what the links cost. -/
def alignmentCost (same : α → α → Bool) (a b : List α) (links : List Link) : Nat :=
  (a.length - linked links) + (b.length - linked links) + (links.map (Link.cost same a b)).sum

@[simp] theorem linked_nil : linked [] = 0 := rfl

@[simp] theorem linked_cons (l : Link) (links : List Link) :
    linked (l :: links) = l.width + linked links := by
  rw [linked, List.map_cons, List.sum_cons, linked]

@[simp] theorem linked_concat (links : List Link) (l : Link) :
    linked (links ++ [l]) = linked links + l.width := by
  rw [linked, List.map_append, List.sum_append, List.map_singleton, List.sum_singleton, linked]

/-! ### No alignment costs less -/

/-- A link ends inside both sequences. -/
theorem Link.Fits.stop_le {l : Link} (h : l.Fits same swaps a b) :
    l.left + l.width ≤ a.length ∧ l.right + l.width ≤ b.length := by
  cases l with
  | pair i j => exact h
  | cross i j =>
    obtain ⟨-, x, x', y, y', -, hx', -, hy', -, -⟩ := h
    exact ⟨(List.getElem?_eq_some_iff.mp hx').1, (List.getElem?_eq_some_iff.mp hy').1⟩

/-- **A link raises the entry of the table by its cost at most.** -/
theorem Link.Fits.table_le {l : Link} (h : l.Fits same swaps a b) :
    table same swaps a b (l.left + l.width) (l.right + l.width)
      ≤ table same swaps a b l.left l.right + l.cost same a b := by
  cases l with
  | pair i j => exact table_replace_le i j
  | cross i j =>
    obtain ⟨hswaps, x, x', y, y', hx, hx', hy, hy', hfirst, hsecond⟩ := h
    exact table_swap_le hswaps (crossedAt_eq_true_iff.mpr
      ⟨i, j, x, x', y, y', rfl, rfl, hx, hx', hy, hy', hsecond, hfirst⟩)

/-- **Frames without a link raise the entry of the table by one each at most.** -/
theorem table_add_le (same : α → α → Bool) (swaps : Bool) (a b : List α) (i j p q : Nat) :
    table same swaps a b (i + p) (j + q) ≤ table same swaps a b i j + p + q := by
  induction p with
  | zero =>
    induction q with
    | zero => exact Nat.le_refl _
    | succ q ih => exact (table_succ_right_le _ _).trans (Nat.succ_le_succ ih)
  | succ p ih =>
    have hstep : table same swaps a b (i + p + 1) (j + q)
        ≤ table same swaps a b (i + p) (j + q) + 1 := table_succ_left_le _ _
    rw [← Nat.add_assoc]
    omega

/-- The links behind a position take no more frames than there are. -/
theorem linked_le_of_links {links : List Link} (hfits : ∀ l ∈ links, l.Fits same swaps a b)
    (hordered : links.Pairwise Link.Before) (hbehind : ∀ l ∈ links, i ≤ l.left ∧ j ≤ l.right) :
    linked links ≤ a.length - i ∧ linked links ≤ b.length - j := by
  induction links generalizing i j with
  | nil => exact ⟨Nat.zero_le _, Nat.zero_le _⟩
  | cons l links ih =>
    obtain ⟨hl, hfits⟩ := List.forall_mem_cons.mp hfits
    obtain ⟨hbefore, hordered⟩ := List.pairwise_cons.mp hordered
    obtain ⟨hleft, hright⟩ := ih hfits hordered hbefore
    obtain ⟨hi, hj⟩ := hbehind l List.mem_cons_self
    have hstop := hl.stop_le
    rw [linked_cons]
    omega

/-- **No more frames are linked than there are**, so nothing is cut off in the cost of an
alignment. -/
theorem IsAlignment.linked_le {links : List Link} (h : IsAlignment same swaps a b links) :
    linked links ≤ a.length ∧ linked links ≤ b.length :=
  linked_le_of_links h.fits h.ordered fun _ _ => ⟨Nat.zero_le _, Nat.zero_le _⟩

/-- **An alignment raises the entry of the table by what it costs at most**, from a position on that
all its links are behind. -/
theorem table_le_of_links {links : List Link} (hfits : ∀ l ∈ links, l.Fits same swaps a b)
    (hordered : links.Pairwise Link.Before) (hbehind : ∀ l ∈ links, i ≤ l.left ∧ j ≤ l.right)
    (hi : i ≤ a.length) (hj : j ≤ b.length) :
    table same swaps a b a.length b.length
      ≤ table same swaps a b i j + (a.length - i - linked links) + (b.length - j - linked links)
        + (links.map (Link.cost same a b)).sum := by
  induction links generalizing i j with
  | nil =>
    have hskip := table_add_le same swaps a b i j (a.length - i) (b.length - j)
    rwa [Nat.add_sub_cancel' hi, Nat.add_sub_cancel' hj] at hskip
  | cons l links ih =>
    obtain ⟨hl, hfits⟩ := List.forall_mem_cons.mp hfits
    obtain ⟨hbefore, hordered⟩ := List.pairwise_cons.mp hordered
    obtain ⟨hil, hjl⟩ := hbehind l List.mem_cons_self
    obtain ⟨hstop, hstop'⟩ := hl.stop_le
    -- the frames in front of the link, the link, and what is behind it
    have hskip := table_add_le same swaps a b i j (l.left - i) (l.right - j)
    rw [Nat.add_sub_cancel' hil, Nat.add_sub_cancel' hjl] at hskip
    have hlink := hl.table_le
    have hrest := ih hfits hordered hbefore hstop hstop'
    obtain ⟨hroom, hroom'⟩ := linked_le_of_links hfits hordered hbefore
    rw [linked_cons, List.map_cons, List.sum_cons]
    omega

/-! ### An alignment that costs as much -/

/-- **An alignment of two beginnings**, of `i` frames and of `j` frames: an alignment that has no
link outside of them. -/
structure IsAlignmentUpTo (same : α → α → Bool) (swaps : Bool) (a b : List α) (i j : Nat)
    (links : List Link) : Prop extends IsAlignment same swaps a b links where
  /-- All links end inside the beginnings. -/
  inside : ∀ l ∈ links, l.left + l.width ≤ i ∧ l.right + l.width ≤ j
  /-- No more frames are linked than the beginnings have. -/
  linked_le : linked links ≤ i ∧ linked links ≤ j

namespace IsAlignmentUpTo

variable {i' j' : Nat} {links : List Link}

/-- Nothing is linked. -/
theorem nil : IsAlignmentUpTo same swaps a b i j [] where
  fits := by simp
  ordered := List.Pairwise.nil
  inside := by simp
  linked_le := ⟨Nat.zero_le _, Nat.zero_le _⟩

/-- Longer beginnings have the same alignments, and more. -/
theorem mono (hi : i ≤ i') (hj : j ≤ j') (h : IsAlignmentUpTo same swaps a b i j links) :
    IsAlignmentUpTo same swaps a b i' j' links where
  toIsAlignment := h.toIsAlignment
  inside l hl := ⟨(h.inside l hl).1.trans hi, (h.inside l hl).2.trans hj⟩
  linked_le := ⟨h.linked_le.1.trans hi, h.linked_le.2.trans hj⟩

/-- **A link can be added behind all others.** -/
theorem concat {l : Link} (hfits : l.Fits same swaps a b)
    (h : IsAlignmentUpTo same swaps a b l.left l.right links) :
    IsAlignmentUpTo same swaps a b (l.left + l.width) (l.right + l.width) (links ++ [l]) where
  fits := by
    rw [List.forall_mem_append, List.forall_mem_singleton]
    exact ⟨h.fits, hfits⟩
  ordered := by
    rw [List.pairwise_append]
    refine ⟨h.ordered, List.pairwise_singleton _ _, fun l' hl' => ?_⟩
    rw [List.forall_mem_singleton]
    exact h.inside l' hl'
  inside := by
    rw [List.forall_mem_append, List.forall_mem_singleton]
    refine ⟨fun l' hl' => ?_, Nat.le_refl _, Nat.le_refl _⟩
    obtain ⟨hleft, hright⟩ := h.inside l' hl'
    exact ⟨Nat.le_add_right_of_le hleft, Nat.le_add_right_of_le hright⟩
  linked_le := by
    rw [linked_concat]
    exact ⟨Nat.add_le_add_right h.linked_le.1 _, Nat.add_le_add_right h.linked_le.2 _⟩

end IsAlignmentUpTo

/-- **Each entry of the table is the cost of an alignment** of the two beginnings it is for. -/
theorem exists_alignment_table (same : α → α → Bool) (swaps : Bool) (i j : Nat)
    (hi : i ≤ a.length) (hj : j ≤ b.length) :
    ∃ links, IsAlignmentUpTo same swaps a b i j links
      ∧ (i - linked links) + (j - linked links) + (links.map (Link.cost same a b)).sum
          = table same swaps a b i j := by
  match i, j with
  | 0, j =>
    refine ⟨[], IsAlignmentUpTo.nil, ?_⟩
    rw [table_zero_left, linked_nil, List.map_nil, List.sum_nil]
    omega
  | i + 1, 0 =>
    refine ⟨[], IsAlignmentUpTo.nil, ?_⟩
    rw [table_zero_right, linked_nil, List.map_nil, List.sum_nil]
    omega
  | i + 1, j + 1 =>
    rcases table_succ_succ_cases same swaps a b i j with
      hcase | hcase | hcase | ⟨hswaps, hcrossed, hcase⟩
    · -- the last frame of the one beginning has none beside it
      obtain ⟨links, hlinks, hcost⟩ :=
        exists_alignment_table same swaps i (j + 1) (Nat.le_of_succ_le hi) hj
      have hlinked := hlinks.linked_le
      exact ⟨links, hlinks.mono (Nat.le_succ i) (Nat.le_refl _), by omega⟩
    · obtain ⟨links, hlinks, hcost⟩ :=
        exists_alignment_table same swaps (i + 1) j hi (Nat.le_of_succ_le hj)
      have hlinked := hlinks.linked_le
      exact ⟨links, hlinks.mono (Nat.le_refl _) (Nat.le_succ j), by omega⟩
    · -- the last frames are side by side
      obtain ⟨links, hlinks, hcost⟩ :=
        exists_alignment_table same swaps i j (Nat.le_of_succ_le hi) (Nat.le_of_succ_le hj)
      have hfits : (Link.pair i j).Fits same swaps a b := ⟨hi, hj⟩
      refine ⟨links ++ [Link.pair i j], hlinks.concat hfits, ?_⟩
      rw [linked_concat, List.map_append, List.sum_append, List.map_singleton,
        List.sum_singleton, Link.width, Link.cost]
      omega
    · -- the last two of both are side by side, crosswise
      obtain ⟨k, l, x, x', y, y', rfl, rfl, hx, hx', hy, hy', hsecond, hfirst⟩ :=
        crossedAt_eq_true_iff.mp hcrossed
      obtain ⟨links, hlinks, hcost⟩ := exists_alignment_table same swaps k l
        (Nat.le_of_succ_le (Nat.le_of_succ_le hi)) (Nat.le_of_succ_le (Nat.le_of_succ_le hj))
      have hfits : (Link.cross k l).Fits same swaps a b :=
        ⟨hswaps, x, x', y, y', hx, hx', hy, hy', hfirst, hsecond⟩
      rw [Nat.add_sub_cancel, Nat.add_sub_cancel] at hcase
      refine ⟨links ++ [Link.cross k l], hlinks.concat hfits, ?_⟩
      rw [linked_concat, List.map_append, List.sum_append, List.map_singleton,
        List.sum_singleton, Link.width, Link.cost]
      omega
termination_by i + j

/-! ### The count -/

/-- **The number of edits is the least cost of an alignment**, for any test of whether two frames
are the same. It is the last entry of the full table, and the distance is what it comes to for each
frame of the longer sequence. -/
theorem count_isLeast_alignmentCost (same : α → α → Bool) (swaps : Bool) (a b : List α) :
    IsLeast {n | ∃ links, IsAlignment same swaps a b links ∧ alignmentCost same a b links = n}
        (count same swaps a b)
      ∧ count same swaps a b = table same swaps a b a.length b.length
      ∧ (max a.length b.length ≠ 0 →
          distance same swaps a b
            = (count same swaps a b).toFloat32 / (max a.length b.length).toFloat32) := by
  refine ⟨⟨?_, ?_⟩, count_eq_table same swaps a b, fun hne => if_neg hne⟩
  · obtain ⟨links, hlinks, hcost⟩ := exists_alignment_table same swaps a.length b.length
      (Nat.le_refl a.length) (Nat.le_refl b.length)
    exact ⟨links, hlinks.toIsAlignment, hcost.trans (count_eq_table same swaps a b).symm⟩
  · rintro n ⟨links, hlinks, rfl⟩
    have hle := table_le_of_links hlinks.fits hlinks.ordered
      (fun l _ => ⟨Nat.zero_le _, Nat.zero_le _⟩) (Nat.zero_le _) (Nat.zero_le _)
    rwa [table_zero_left, Nat.zero_add, Nat.sub_zero, Nat.sub_zero, ← count_eq_table] at hle

/-- Two swaps of neighbours, the second one past the second row, and what it takes without swaps. -/
example :
    count (· == ·) true ['a', 'b', 'c', 'd'] ['b', 'a', 'd', 'c'] = 2
      ∧ count (· == ·) false ['a', 'b', 'c', 'd'] ['b', 'a', 'd', 'c'] = 3 := by
  decide

end Edit

end CrashTriage
