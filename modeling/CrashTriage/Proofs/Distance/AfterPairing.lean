import CrashTriage.Distance
import CrashTriage.Proofs.Metric.EditCount
import CrashTriage.Proofs.Pairing.Relabelling

/-!
# The number of edits after pairing

Pairing keeps a frame as it is or, if it is unresolved, gives it a label (`Frame.Becomes`). An
unresolved frame is the same site as none, so a label cannot part what was the same before: **frames
that are the same site still are after pairing** (`Frame.Becomes.sameSite`), and some that were not
may be. Every script between the threads is then one between the paired threads that costs no more,
and so **pairing moves no two threads apart** (`Pairing.count_pair_le`).
-/

namespace CrashTriage

/-- **What pairing makes of a frame**: the frame itself, or an unresolved frame under a label. -/
inductive Frame.Becomes : Frame → Frame → Prop
  /-- The frame is kept. -/
  | kept (f : Frame) : Becomes f f
  /-- The frame is labelled. -/
  | labelled {f : Frame} (hf : f.isUnresolved = true) (label : UInt32) :
      Becomes f (f.relabel (.paired label))

/-- **A frame that is the same site as another one is kept**, since it is resolved. -/
theorem Frame.Becomes.eq_of_sameSite {f f' g : Frame} (h : f.Becomes f')
    (hsame : f.sameSite g = true) : f' = f := by
  cases h with
  | kept => rfl
  | labelled hf label =>
    have hresolved := isResolved_iff.mp (isResolved_of_sameSite hsame)
    rw [hf] at hresolved
    exact absurd hresolved (by simp)

/-- **Frames that are the same site stay so.** -/
theorem Frame.Becomes.sameSite {f f' g g' : Frame} (hf : f.Becomes f') (hg : g.Becomes g')
    (hsame : f.sameSite g = true) : f'.sameSite g' = true := by
  have hsame' : g.sameSite f = true := (sameSite_comm g f).trans hsame
  rw [hf.eq_of_sameSite hsame, hg.eq_of_sameSite hsame', hsame]

namespace Pairing

/-- **Labelling at positions of unresolved frames**, frame by frame. -/
theorem forall₂_becomes_labelAt {positions : List Nat} {frames : List Frame}
    (h : ∀ i ∈ positions, ∃ f, frames[i]? = some f ∧ (!f.isResolved) = true) :
    List.Forall₂ Frame.Becomes frames (labelAt positions frames) := by
  refine List.forall₂_iff_get.mpr ⟨(length_labelAt positions frames).symm, fun i hi hi' => ?_⟩
  have hget := getElem?_labelAt positions frames i
  rw [List.getElem?_eq_getElem hi, List.getElem?_eq_getElem hi', Option.map_some] at hget
  show Frame.Becomes frames[i] (labelAt positions frames)[i]
  rw [Option.some.inj hget]
  rcases hlabel : positions.idxOf? i with _ | k
  · exact Frame.Becomes.kept _
  · -- the position is one of those that are labelled
    have hmem : i ∈ positions := by
      by_contra hne
      rw [List.idxOf?_eq_none_iff.mpr hne] at hlabel
      exact absurd hlabel (by simp)
    obtain ⟨f, hf, hunresolved⟩ := h i hmem
    rw [List.getElem?_eq_getElem hi] at hf
    obtain rfl := Option.some.inj hf
    exact Frame.Becomes.labelled (frames[i].not_isResolved ▸ hunresolved) _

/-- **What pairing makes of two threads**, frame by frame. -/
theorem forall₂_becomes_pair (a b : Thread) :
    List.Forall₂ Frame.Becomes a.frames (pair a b).1.frames
      ∧ List.Forall₂ Frame.Becomes b.frames (pair a b).2.frames :=
  ⟨forall₂_becomes_labelAt fun _ => unresolved_of_mem_map_fst,
    forall₂_becomes_labelAt fun _ => unresolved_of_mem_map_snd⟩

/-- **Pairing moves no two threads apart**: no more edits, with swaps or without them, lead from one
to the other after pairing than before. -/
theorem count_pair_le (swaps : Bool) (a b : Thread) :
    Edit.count Frame.sameSite swaps (pair a b).1.frames (pair a b).2.frames
      ≤ Edit.count Frame.sameSite swaps a.frames b.frames := by
  obtain ⟨ha, hb⟩ := forall₂_becomes_pair a b
  exact Edit.count_le_of_forall₂ (fun _ _ _ _ hx hy => hx.sameSite hy) ha hb

/-- Of the unresolved frames in front of the two known ones, the first is at the same place in both
threads, and one edit is saved; of those in between, the second thread has one more. -/
example :
    let thread (symbols : List Symbol) : Thread := ⟨0, .oops, symbols.map .ofOopsSymbol⟩
    let a := thread [.unknown, .named "open", .unknown, .named "main"]
    let b := thread [.unknown, .named "open", .unknown, .unknown, .named "main"]
    Edit.count Frame.sameSite true a.frames b.frames = 3
      ∧ Edit.count Frame.sameSite true (pair a b).1.frames (pair a b).2.frames = 2 := by
  decide

end Pairing

end CrashTriage
