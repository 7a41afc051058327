import CrashTriage.Proofs.Frame.Tolerance
import CrashTriage.Proofs.Pairing.Gaps

/-!
# Labels

Labelling keeps the length of a sequence and changes no frame but those at the labelled positions
(`Pairing.getElem?_labelAt`), and a frame with a label is resolved. So if all unresolved frames of a
sequence are labelled, then **no frame is left unresolved** (`Pairing.isResolved_of_mem_labelAt`).

That is what happens to a thread that is paired with itself, as long as it has a resolved frame:
both threads become the same one, and no frame of it is unresolved (`Pairing.pair_self`).
-/

namespace CrashTriage

/-- A label tells where a frame is. -/
theorem Frame.isResolved_relabel (label : UInt32) (f : Frame) :
    (f.relabel (.paired label)).isResolved = true := by
  obtain ⟨s, d⟩ := f
  cases d <;> rfl

namespace Pairing

/-- The frame at a position, with the label of the position if it has one. -/
theorem getElem?_labelAt (positions : List Nat) (frames : List Frame) (i : Nat) :
    (labelAt positions frames)[i]?
      = frames[i]?.map fun f =>
          (positions.idxOf? i).elim f fun k => f.relabel (.paired (UInt32.ofNat k)) := by
  rw [labelAt, List.getElem?_mapIdx]
  congr 1
  funext f
  cases positions.idxOf? i <;> rfl

@[simp] theorem length_labelAt (positions : List Nat) (frames : List Frame) :
    (labelAt positions frames).length = frames.length := by
  rw [labelAt, List.length_mapIdx]

/-- **Once all unresolved frames are labelled, no frame is unresolved.** -/
theorem isResolved_of_mem_labelAt {frames : List Frame} {f : Frame}
    (h : f ∈ labelAt (frames.findIdxs fun f => !f.isResolved) frames) : f.isResolved = true := by
  obtain ⟨i, hi⟩ := List.mem_iff_getElem?.mp h
  rw [getElem?_labelAt] at hi
  obtain ⟨g, hg, rfl⟩ := Option.map_eq_some_iff.mp hi
  rcases hlabel : (frames.findIdxs fun f => !f.isResolved).idxOf? i with _ | k
  · -- the position is not among the unresolved ones
    rw [hlabel]
    by_contra hne
    obtain ⟨hlt, hget⟩ := List.getElem?_eq_some_iff.mp hg
    have hmem : i ∈ frames.findIdxs fun f => !f.isResolved := by
      rw [List.mem_findIdxs_iff_pos_getElem hlt, hget]
      simpa using hne
    exact List.idxOf?_eq_none_iff.mp hlabel hmem
  · rw [hlabel]
    exact Frame.isResolved_relabel _ g

/-- **A thread that is paired with itself** is resolved completely, if it has a resolved frame. -/
theorem pair_self {t : Thread} (h : ∃ f ∈ t.frames, f.isResolved = true) :
    ∃ t' : Thread, pair t t = (t', t') ∧ t'.kind = t.kind ∧ t'.frames.length = t.frames.length
      ∧ ∀ f ∈ t'.frames, f.isResolved = true := by
  have hpositions := pairedPositions_self Frame.sameSite_comm Frame.sameSite_self
    (fun _ _ hsame => Frame.isResolved_of_sameSite hsame) h
  refine ⟨{ t with frames := labelAt (t.frames.findIdxs fun f => !f.isResolved) t.frames }, ?_,
    rfl, length_labelAt _ _, fun f hf => isResolved_of_mem_labelAt hf⟩
  have hmap : (fun p : Nat × Nat => p.1) ∘ (fun k => (k, k)) = id := rfl
  have hmap' : (fun p : Nat × Nat => p.2) ∘ (fun k => (k, k)) = id := rfl
  rw [pair, hpositions]
  simp only [List.map_map, hmap, hmap', List.map_id]

end Pairing

end CrashTriage
