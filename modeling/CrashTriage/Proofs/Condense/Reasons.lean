import CrashTriage.Proofs.Condense.Selection
import CrashTriage.Proofs.Frame.Tolerance
import Mathlib.Data.List.Destutter
import Mathlib.Data.List.FinRange

/-!
# Why a frame is left out

Behind the library frames, a frame is left out for one of three reasons (`Condense.Reason`): it is a
null call on top, it is a null call at the bottom, or it repeats the call that was kept last before
it. This file shows that **no frame is left out without a reason**, and that no two frames that are
kept side by side are the same site (`Condense.isAccount_leftPositions`).

A sequence may have the same frame at several places, some of which are kept and others are not, so
this is told of positions. The steps are run on the positions instead of the frames, with each test
looking up the frames there (`Condense.leftPositions`), and lead to the positions of just the frames
that are left (`Condense.map_leftPositions`). Positions are never the same, and they ascend.

Folding compares a frame with the one kept last and not with its neighbour, which matters since
being the same site is not transitive. For tests in general this is `List.destutter`
(`Condense.foldRuns_eq_destutter`).
-/

namespace CrashTriage

namespace Condense

section Sequences

variable {α β : Type} {p : α → Bool} {same : α → α → Bool} {l : List α} {x y z kept : α}

/-! ### Elements that are left out -/

/-- Only the first element may be missing, and only if it has the property. -/
theorem of_not_mem_dropFirstIf (hx : x ∈ l) (hout : x ∉ dropFirstIf p l) :
    l.head? = some x ∧ p x = true := by
  cases l with
  | nil => exact absurd hx List.not_mem_nil
  | cons a l =>
    rw [dropFirstIf] at hout
    split at hout
    · next ha =>
      obtain rfl : x = a := (List.mem_cons.mp hx).resolve_right hout
      exact ⟨rfl, ha⟩
    · exact absurd hx hout

/-- If the first element has the property, it is missing. -/
theorem not_mem_dropFirstIf (hnodup : l.Nodup) (hx : l.head? = some x) (hp : p x = true) :
    x ∉ dropFirstIf p l := by
  obtain ⟨l, rfl⟩ := List.head?_eq_some_iff.mp hx
  rw [dropFirstIf, if_pos hp]
  exact (List.nodup_cons.mp hnodup).1

/-- Only the last element may be missing, and only if it has the property. -/
theorem of_not_mem_dropLastIf (hx : x ∈ l) (hout : x ∉ dropLastIf p l) :
    l.getLast? = some x ∧ p x = true := by
  rw [dropLastIf] at hout
  split at hout
  · next hlast =>
    have hx' : l.getLast? = some x := by
      by_contra hne
      exact hout (List.mem_dropLast_of_mem_of_ne_getLast? hx (Ne.symm hne))
    rw [hx'] at hlast
    exact ⟨hx', hlast⟩
  · exact absurd hx hout

/-- What is left without the first element ends as before. -/
theorem getLast?_of_dropFirstIf (h : (dropFirstIf p l).getLast? = some x) :
    l.getLast? = some x := by
  cases l with
  | nil => exact h
  | cons a l =>
    rw [dropFirstIf] at h
    split at h
    · rw [← List.singleton_append, List.getLast?_append, h, Option.some_or]
    · exact h

theorem cons_foldAfter_eq_destutter' (same : α → α → Bool) (kept : α) (l : List α) :
    kept :: foldAfter same kept l = l.destutter' (fun x y => same y x = false) kept := by
  induction l generalizing kept with
  | nil => rfl
  | cons a l ih =>
    rw [foldAfter, List.destutter'_cons]
    split
    · next hsame => rw [if_neg (ne_false_of_eq_true hsame), ih]
    · next hsame => rw [if_pos (eq_false_of_ne_true hsame), ih]

/-- Folding lets an element stay that is not the same as the one that stayed before it. -/
theorem foldRuns_eq_destutter (same : α → α → Bool) (l : List α) :
    foldRuns same l = l.destutter (fun x y => same y x = false) := by
  cases l with
  | nil => rfl
  | cons a l => exact cons_foldAfter_eq_destutter' same a l

/-- **The last element of a list in front of another one.** -/
structure IsLastBefore [Preorder α] (l : List α) (y x : α) : Prop where
  /-- It is in the list. -/
  mem : y ∈ l
  /-- It is in front of the other one. -/
  lt : y < x
  /-- No element of the list is between the two. -/
  le : ∀ z ∈ l, z < x → z ≤ y

theorem IsLastBefore.cons [Preorder α] (h : IsLastBefore l y x) (hz : z < y) :
    IsLastBefore (z :: l) y x where
  mem := List.mem_cons_of_mem z h.mem
  lt := h.lt
  le := List.forall_mem_cons.mpr ⟨fun _ => le_of_lt hz, h.le⟩

/-- **An element that is folded away is the same as the last one kept before it.** -/
theorem exists_isLastBefore_of_not_mem_foldAfter [Preorder α]
    (hrising : (kept :: l).Pairwise (· < ·)) (hx : x ∈ l) (hout : x ∉ foldAfter same kept l) :
    ∃ y, IsLastBefore (kept :: foldAfter same kept l) y x ∧ same x y = true := by
  induction l generalizing kept with
  | nil => exact absurd hx List.not_mem_nil
  | cons a l ih =>
    obtain ⟨hkept, hrest⟩ := List.pairwise_cons.mp hrising
    obtain ⟨ha, hl⟩ := List.forall_mem_cons.mp hkept
    rw [foldAfter] at hout ⊢
    split at hout
    · next hsame =>
      rw [if_pos hsame]
      rcases List.mem_cons.mp hx with rfl | hx
      · -- what is kept later is behind the element
        refine ⟨kept, ⟨List.mem_cons_self, ha, ?_⟩, hsame⟩
        refine List.forall_mem_cons.mpr ⟨fun _ => le_refl kept, fun z hz hlt => ?_⟩
        have hzl := (foldAfter_sublist same kept l).subset hz
        exact absurd hlt (lt_asymm ((List.pairwise_cons.mp hrest).1 z hzl))
      · exact ih (List.pairwise_cons.mpr ⟨hl, (List.pairwise_cons.mp hrest).2⟩) hx hout
    · next hsame =>
      rw [if_neg hsame]
      obtain ⟨hne, hout⟩ := not_or.mp (mt List.mem_cons.mpr hout)
      obtain ⟨y, hy, hxy⟩ := ih hrest ((List.mem_cons.mp hx).resolve_left hne) hout
      have hmem : y ∈ a :: l := (foldAfter_sublist same a l).cons_cons a |>.subset hy.mem
      exact ⟨y, hy.cons (hkept y hmem), hxy⟩

theorem exists_isLastBefore_of_not_mem_foldRuns [Preorder α] (hrising : l.Pairwise (· < ·))
    (hx : x ∈ l) (hout : x ∉ foldRuns same l) :
    ∃ y, IsLastBefore (foldRuns same l) y x ∧ same x y = true := by
  cases l with
  | nil => exact absurd hx List.not_mem_nil
  | cons a l =>
    obtain ⟨hne, hout⟩ := not_or.mp (mt List.mem_cons.mpr hout)
    exact exists_isLastBefore_of_not_mem_foldAfter hrising
      ((List.mem_cons.mp hx).resolve_left hne) hout

/-! ### Steps on what elements stand for -/

theorem map_dropFirstIf (g : α → β) (p : β → Bool) (l : List α) :
    (dropFirstIf (fun x => p (g x)) l).map g = dropFirstIf p (l.map g) := by
  cases l with
  | nil => rfl
  | cons a l =>
    rw [List.map_cons, dropFirstIf, dropFirstIf, apply_ite (List.map g), List.map_cons]

theorem map_dropLastIf (g : α → β) (p : β → Bool) (l : List α) :
    (dropLastIf (fun x => p (g x)) l).map g = dropLastIf p (l.map g) := by
  rw [dropLastIf, dropLastIf, apply_ite (List.map g), List.map_dropLast, List.getLast?_map,
    Option.any_map]

theorem map_foldRuns (g : α → β) (same : β → β → Bool) (l : List α) :
    (foldRuns (fun x y => same (g x) (g y)) l).map g = foldRuns same (l.map g) := by
  rw [foldRuns_eq_destutter, foldRuns_eq_destutter]
  exact List.map_destutter fun _ _ _ _ => Iff.rfl

end Sequences

/-! ### Positions -/

variable {frames : List Frame}

/-- All positions stand in the list of them where they belong. -/
theorem getElem?_finRange_eq_some_iff {n i : Nat} {k : Fin n} :
    (List.finRange n)[i]? = some k ↔ k.val = i := by
  rw [List.getElem?_eq_some_iff]
  constructor
  · rintro ⟨hi, rfl⟩
    rw [List.getElem_finRange]
    rfl
  · rintro rfl
    refine ⟨by rw [List.length_finRange]; exact k.isLt, ?_⟩
    rw [List.getElem_finRange]
    rfl

theorem isNullCall_iff {f : Frame} :
    isNullCall f = true ↔ f.isUnresolved = true ∧ f.address? = some 0 := by
  rw [isNullCall, Bool.and_eq_true, beq_iff_eq]

/-- The positions of the frames that are left without null calls at the ends. -/
def trimmedPositions (frames : List Frame) : List (Fin frames.length) :=
  dropLastIf (fun k => isNullCall (frames.get k))
    (dropFirstIf (fun k => isNullCall (frames.get k)) (List.finRange frames.length))

/-- The positions of the frames that are left without null calls and recursion. -/
def leftPositions (frames : List Frame) : List (Fin frames.length) :=
  foldRuns (fun k j => (frames.get k).sameSite (frames.get j)) (trimmedPositions frames)

/-- **The frames that are left stand at these positions.** -/
theorem map_leftPositions (frames : List Frame) :
    (leftPositions frames).map frames.get = foldRecursion (trimNullCalls frames) := by
  rw [leftPositions, trimmedPositions, map_foldRuns frames.get, map_dropLastIf frames.get,
    map_dropFirstIf frames.get, List.map_get_finRange, foldRecursion, trimNullCalls]

theorem trimmedPositions_sublist (frames : List Frame) :
    (trimmedPositions frames).Sublist (List.finRange frames.length) :=
  (dropLastIf_sublist _ _).trans (dropFirstIf_sublist _ _)

theorem leftPositions_sublist (frames : List Frame) :
    (leftPositions frames).Sublist (trimmedPositions frames) :=
  foldRuns_sublist _ _

/-- **Why the frame at a position is left out**, where those at the positions `kept` are kept. -/
inductive Reason (frames : List Frame) (kept : List (Fin frames.length))
    (k : Fin frames.length) : Prop
  /-- It is a null call on top. -/
  | top (hfirst : k.val = 0) (hunresolved : (frames.get k).isUnresolved = true)
      (haddress : (frames.get k).address? = some 0)
  /-- It is a null call at the bottom. -/
  | bottom (hlast : k.val + 1 = frames.length) (hunresolved : (frames.get k).isUnresolved = true)
      (haddress : (frames.get k).address? = some 0)
  /-- It is the same site as the frame that is kept last before it. -/
  | repeated (j : Fin frames.length) (hbefore : IsLastBefore kept j k)
      (hsame : (frames.get k).sameSite (frames.get j) = true)

/-- **An account of what is left of a sequence of frames**, by the positions of the frames that are
kept. -/
structure IsAccount (frames result : List Frame) (kept : List (Fin frames.length)) : Prop where
  /-- The order is kept. -/
  rising : kept.Pairwise (· < ·)
  /-- The result are the frames at these positions. -/
  result_eq : result = kept.map frames.get
  /-- Frames side by side are not the same site. -/
  apart : result.IsChain (fun f g => f.sameSite g = false)
  /-- Every other frame is left out for a reason. -/
  reason : ∀ k, k ∉ kept → Reason frames kept k
  /-- A null call on top is left out. -/
  top : ∀ k : Fin frames.length, k.val = 0 → (frames.get k).isUnresolved = true →
    (frames.get k).address? = some 0 → k ∉ kept

/-- A position outside is that of a null call at an end. -/
theorem reason_of_not_mem_trimmedPositions {kept : List (Fin frames.length)}
    {k : Fin frames.length} (hout : k ∉ trimmedPositions frames) : Reason frames kept k := by
  by_cases hfirst : k ∈ dropFirstIf (fun k => isNullCall (frames.get k))
      (List.finRange frames.length)
  · obtain ⟨hlast, hnull⟩ := of_not_mem_dropLastIf hfirst hout
    have hlast' := getLast?_of_dropFirstIf hlast
    rw [List.getLast?_eq_getElem?, List.length_finRange, getElem?_finRange_eq_some_iff] at hlast'
    obtain ⟨hunresolved, haddress⟩ := isNullCall_iff.mp hnull
    exact .bottom (by omega) hunresolved haddress
  · obtain ⟨hhead, hnull⟩ := of_not_mem_dropFirstIf (List.mem_finRange k) hfirst
    rw [List.head?_eq_getElem?, getElem?_finRange_eq_some_iff] at hhead
    obtain ⟨hunresolved, haddress⟩ := isNullCall_iff.mp hnull
    exact .top hhead hunresolved haddress

/-- **The steps behind the library frames account for every frame.** -/
theorem isAccount_leftPositions (frames : List Frame) :
    IsAccount frames (foldRecursion (trimNullCalls frames)) (leftPositions frames) where
  rising := (List.pairwise_lt_finRange _).sublist
    ((leftPositions_sublist frames).trans (trimmedPositions_sublist frames))
  result_eq := (map_leftPositions frames).symm
  apart := by
    rw [foldRecursion, foldRuns_eq_destutter]
    refine (List.isChain_destutter _ _).imp fun f g h => ?_
    rw [Frame.sameSite_comm]
    exact h
  reason k hout := by
    by_cases hk : k ∈ trimmedPositions frames
    · have hrising := (List.pairwise_lt_finRange _).sublist (trimmedPositions_sublist frames)
      obtain ⟨j, hbefore, hsame⟩ := exists_isLastBefore_of_not_mem_foldRuns hrising hk hout
      exact .repeated j hbefore hsame
    · exact reason_of_not_mem_trimmedPositions hk
  top k hfirst hunresolved haddress hmem := by
    have hhead : (List.finRange frames.length).head? = some k := by
      rw [List.head?_eq_getElem?, getElem?_finRange_eq_some_iff]
      exact hfirst
    have hout : k ∉ dropFirstIf (fun k => isNullCall (frames.get k))
        (List.finRange frames.length) :=
      not_mem_dropFirstIf (List.nodup_finRange _) hhead
        (isNullCall_iff.mpr ⟨hunresolved, haddress⟩)
    exact hout ((dropLastIf_sublist _ _).subset ((leftPositions_sublist frames).subset hmem))

end Condense

namespace Thread

open Condense

/-- **Condensing a thread loses no frame without a reason.** The number and the kind of the thread
stay. Of the frames that are left without those of libraries, the ones at some ascending positions
are kept, no two of which are the same site side by side. A frame at any other position is a null
call at one of the ends, or the same site as the frame that is kept last before it; and a null call
on top is never kept. -/
theorem condense_isAccounted (t : Thread) :
    t.condense.id = t.id ∧ t.condense.kind = t.kind
      ∧ ∃ kept, IsAccount (dropLibraryFrames t.kind t.frames) t.condense.frames kept :=
  ⟨rfl, rfl, leftPositions _, isAccount_leftPositions _⟩

/-- A frame without a library is folded into the one before it. The one behind it is not, although
it is the same site: it is compared with the frame that was kept. -/
example :
    let read (library : Option String) : Frame := ⟨.named "read", .debugger { library }⟩
    let frames := [read (some "libc"), read none, read (some "libpthread")]
    (leftPositions frames).map Fin.val = [0, 2] := by
  decide +kernel

end Thread

end CrashTriage
