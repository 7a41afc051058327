import CrashTriage.Distance
import CrashTriage.Proofs.Frame.Tolerance
import CrashTriage.Proofs.Metric.EditCount
import CrashTriage.Proofs.Pairing.Gaps

/-!
# When the distance is symmetric

The number of edits does not depend on the order of two sequences of frames
(`Metric.editDistance_comm`), since the tolerance of frames is symmetric; so neither do the two edit
distances of threads (`Metric.distance_comm`). But the pairing in front of them chooses its anchors
along the first thread, so **the paired distance may depend on the order of the threads**.

It does not if pairing treats the two threads evenly (`Metric.pairedDistance_comm_of_evenly`): if
they are not paired at all, if one of them has no unresolved frame, or if the frames that they
share come one by one in the same order on both sides.
-/

namespace CrashTriage

/-! ### Without pairing -/

/-- **The edit distance is symmetric** for a test that is. -/
theorem Edit.distance_comm {α : Type} {same : α → α → Bool} (hsame : ∀ x y, same x y = same y x)
    (swaps : Bool) (a b : List α) :
    Edit.distance same swaps a b = Edit.distance same swaps b a := by
  rw [Edit.distance, Edit.distance, Edit.count_comm hsame swaps a b, Nat.max_comm]

namespace Metric

/-- **The number of edits between two sequences of frames does not depend on their order**, with
swaps or without them and whatever kinds of frames they mix; so neither does what it comes to for
each frame of the longer sequence. -/
theorem editDistance_comm (swaps : Bool) (a b : List Frame) :
    Edit.count Frame.sameSite swaps a b = Edit.count Frame.sameSite swaps b a
      ∧ Edit.distance Frame.sameSite swaps a b = Edit.distance Frame.sameSite swaps b a :=
  ⟨Edit.count_comm Frame.sameSite_comm swaps a b, Edit.distance_comm Frame.sameSite_comm swaps a b⟩

/-- The metrics that count edits. -/
def countsEdits (m : Metric) : Prop :=
  m = edits ∨ m = editsAndSwaps

variable {m : Metric} {a b : Thread}

/-- **The edit distances of threads are symmetric** as long as the threads are compared as they
are. -/
theorem distance_comm (hm : m.countsEdits) (a b : Thread) : m.distance a b = m.distance b a := by
  have hframes : m.ofFrames a.frames b.frames = m.ofFrames b.frames a.frames := by
    rcases hm with rfl | rfl
    · exact Edit.distance_comm Frame.sameSite_comm false a.frames b.frames
    · exact Edit.distance_comm Frame.sameSite_comm true a.frames b.frames
  rw [distance, distance, hframes]
  simp only [eq_comm (a := a.kind)]

/-! ### With pairing -/

/-- The positions in two threads whose frames are paired. -/
def positions (a b : Thread) : List (Nat × Nat) :=
  Pairing.pairedPositions Frame.sameSite Frame.isResolved a.frames b.frames

theorem needsPairing_comm (hkind : a.kind = b.kind) : needsPairing b a = needsPairing a b := by
  rw [needsPairing, needsPairing, hkind, Bool.and_comm b.isSound]

/-- If the mirrored positions are paired, the threads become the same ones. -/
theorem pair_comm (h : positions b a = (positions a b).map Prod.swap) :
    Pairing.pair b a = (Pairing.pair a b).swap := by
  have hleft : (positions b a).map Prod.fst = (positions a b).map Prod.snd := by
    rw [h, List.map_map]
    rfl
  have hright : (positions b a).map Prod.snd = (positions a b).map Prod.fst := by
    rw [h, List.map_map]
    rfl
  show (({ b with frames := Pairing.labelAt ((positions b a).map Prod.fst) b.frames } : Thread),
      ({ a with frames := Pairing.labelAt ((positions b a).map Prod.snd) a.frames } : Thread)) = _
  rw [hleft, hright]
  rfl

/-- **Pairing treats two threads evenly** if they are not paired, or if the same frames of either
are paired whichever comes first. -/
def Evenly (a b : Thread) : Prop :=
  a.kind = b.kind → needsPairing a b = true → positions b a = (positions a b).map Prod.swap

/-- **The paired distance is symmetric where pairing treats the threads evenly.** -/
theorem pairedDistance_comm_of_evenly (hm : m.countsEdits) (h : Evenly a b) :
    m.pairedDistance a b = m.pairedDistance b a := by
  unfold pairedDistance
  by_cases hkind : a.kind = b.kind
  · rw [needsPairing_comm hkind]
    by_cases hneeds : needsPairing a b = true
    · rw [if_pos ⟨hkind, hneeds⟩, if_pos ⟨hkind.symm, hneeds⟩, pair_comm (h hkind hneeds)]
      exact distance_comm hm _ _
    · rw [if_neg fun hcond => hneeds hcond.2, if_neg fun hcond => hneeds hcond.2]
      exact distance_comm hm a b
  · rw [if_neg fun hcond => hkind hcond.1, if_neg fun hcond => hkind hcond.1.symm]
    exact distance_comm hm a b

/-- Threads are treated evenly if one of them has nothing to pair, or if the frames that they share
come one by one in the same order. -/
theorem evenly_of_inStep
    (h : (∀ f ∈ a.frames, f.isResolved = true) ∨ (∀ f ∈ b.frames, f.isResolved = true)
      ∨ Pairing.InStep Frame.sameSite Frame.isResolved a.frames b.frames) : Evenly a b := by
  intro _ _
  unfold positions
  -- without unresolved frames on one side nothing is paired in either order
  rcases h with ha | hb | hstep
  · rw [Pairing.pairedPositions_eq_nil (Or.inl ha), Pairing.pairedPositions_eq_nil (Or.inr ha)]
    rfl
  · rw [Pairing.pairedPositions_eq_nil (Or.inr hb), Pairing.pairedPositions_eq_nil (Or.inl hb)]
    rfl
  · exact Pairing.pairedPositions_comm (Pairing.anchors_comm_of_inStep Frame.sameSite_comm
      (fun _ _ hsame => Frame.isResolved_of_sameSite hsame) hstep)

/-- **When the paired distance is symmetric.** The edit distances themselves always are. After
pairing they are as well if pairing treats the threads evenly; and it does if the threads are of
different kinds or both well resolved, so that they are not paired, if one of them has no
unresolved frame, or if the frames that they share come one by one in the same order. -/
theorem pairedDistance_comm (hm : m.countsEdits) (a b : Thread) :
    m.distance a b = m.distance b a
      ∧ (Evenly a b → m.pairedDistance a b = m.pairedDistance b a)
      ∧ (a.kind ≠ b.kind ∨ needsPairing a b = false
          ∨ (∀ f ∈ a.frames, f.isResolved = true) ∨ (∀ f ∈ b.frames, f.isResolved = true)
          ∨ Pairing.InStep Frame.sameSite Frame.isResolved a.frames b.frames →
          m.pairedDistance a b = m.pairedDistance b a) := by
  refine ⟨distance_comm hm a b, pairedDistance_comm_of_evenly hm, ?_⟩
  rintro (hkind | hneeds | h)
  · -- threads that are not paired are treated evenly for want of a pairing
    exact pairedDistance_comm_of_evenly hm fun heq => absurd heq hkind
  · refine pairedDistance_comm_of_evenly hm fun _ htrue => ?_
    rw [hneeds] at htrue
    exact absurd htrue Bool.false_ne_true
  · exact pairedDistance_comm_of_evenly hm (evenly_of_inStep h)

/-- Two crashes that share one frame, behind which both are unresolved: these frames are paired,
and the distance is the same in either order. -/
theorem pairedDistance_comm_one_shared_frame :
    let a : Thread := ⟨0, .debugger, [.ofDebuggerSymbol (.named "abort"),
      .ofDebuggerSymbol (.named "main"), .ofDebuggerSymbol .unknown]⟩
    let b : Thread := ⟨1, .debugger,
      [.ofDebuggerSymbol (.named "main"), .ofDebuggerSymbol .unknown]⟩
    editsAndSwaps.countsEdits ∧ positions a b = [(2, 1)]
      ∧ editsAndSwaps.pairedDistance a b = editsAndSwaps.pairedDistance b a := by
  intro a b
  have hstep : Pairing.InStep Frame.sameSite Frame.isResolved a.frames b.frames :=
    List.Forall₂.cons (by decide) List.Forall₂.nil
  exact ⟨Or.inr rfl, by decide, (pairedDistance_comm (Or.inr rfl) a b).2.2
    (Or.inr (Or.inr (Or.inr (Or.inr hstep))))⟩

/-- A recursion that is one call deeper in the first thread is anchored twice, and the unresolved
frames behind it are paired; from the other side the second call lies in between. -/
theorem pairedDistance_not_symmetric :
    let a : Thread := ⟨0, .debugger, [.ofDebuggerSymbol (.named "x"),
      .ofDebuggerSymbol (.named "x"), .ofDebuggerSymbol .unknown]⟩
    let b : Thread := ⟨0, .debugger, [.ofDebuggerSymbol (.named "x"), .ofDebuggerSymbol .unknown]⟩
    edits.pairedDistance a b ≠ edits.pairedDistance b a
      ∧ editsAndSwaps.pairedDistance a b ≠ editsAndSwaps.pairedDistance b a := by
  decide +kernel

end Metric

end CrashTriage
