import CrashTriage.DistanceMatrix
import CrashTriage.Proofs.Grid.Words

/-!
# Matrices and how slots are counted

Building, reading and writing a distance matrix depend on how slots are counted, but **only through
the slots of its own cells and their number**. So wherever these are counted exactly
(`Indexing.IsExactOn`), the outcome is the same as if all slots were
(`DistanceMatrix.get?_of_isExactOn`, `DistanceMatrix.afterWrites_of_isExactOn`,
`DistanceMatrix.zero_of_isExactOn`, `DistanceMatrix.ofSlots_of_isExactOn`). In particular this holds
of counting in words, for a matrix that is small enough (`Indexing.isExactOn_words`).

Which extent a matrix has, on the other hand, does not depend on the counting at all.
-/

namespace CrashTriage

namespace DistanceMatrix

variable {d d' : DistanceMatrix} {ix : Indexing} {i j : Nat} {x : Float32}

/-! ### The extent -/

/-- **A write keeps the extent.** -/
theorem shape_of_set (hok : d.set i j x ix = .ok d') : d'.shape = d.shape := by
  unfold set at hok
  split at hok
  · split at hok
    · obtain rfl := Except.ok.inj hok
      rfl
    · exact absurd hok (by simp)
  · dsimp only at hok
    split at hok
    · obtain rfl := Except.ok.inj hok
      rfl
    · exact absurd hok (by simp)

theorem shape_written (d : DistanceMatrix) (w : Write) (ix : Indexing) :
    (d.written w ix).shape = d.shape := by
  unfold written
  split
  · next d' hok => exact shape_of_set hok
  · rfl

theorem shape_afterWrites (d : DistanceMatrix) (writes : List Write) (ix : Indexing) :
    (d.afterWrites writes ix).shape = d.shape := by
  induction writes generalizing d with
  | nil => rfl
  | cons w writes ih => exact (ih (d.written w ix)).trans (shape_written d w ix)

theorem clamp?_of_zero {demand : Shape} (hok : zero demand ix = .ok d) :
    demand.clamp? = some d.shape := by
  unfold zero at hok
  split at hok
  · next s hdemand =>
    obtain rfl := Except.ok.inj hok
    exact hdemand
  · exact absurd hok (by simp)

theorem shape_of_ofSlots {shape : Shape} {slots : Array Float32}
    (hok : ofSlots shape slots ix = .ok d) : d.shape = shape := by
  unfold ofSlots at hok
  split at hok
  · exact absurd hok (by simp)
  · split at hok
    · exact absurd hok (by simp)
    · obtain rfl := Except.ok.inj hok
      rfl

theorem isProper_of_ofSlots {shape : Shape} {slots : Array Float32}
    (hok : ofSlots shape slots ix = .ok d) : d.shape.IsProper := by
  rw [shape_of_ofSlots hok]
  by_contra hshape
  rw [ofSlots, if_pos hshape] at hok
  exact absurd hok (by simp)

/-- A persisted matrix is one of given slots. -/
theorem exists_ofSlots_of_ofDocument {doc : Document} (hok : ofDocument doc ix = .ok d) :
    ∃ shape slots, ofSlots shape slots ix = .ok d
      ∧ ∀ ix', ofDocument doc ix' = ReadError.ofBuild (ofSlots shape slots ix') := by
  rcases hparts : partsOf? doc with _ | ⟨shape, slots⟩
  · rw [ofDocument, hparts] at hok
    exact absurd hok (by simp [ReadError.ofForm, bind, Except.bind])
  · have hbuild (ix' : Indexing) :
        ofDocument doc ix' = ReadError.ofBuild (ofSlots shape slots ix') := by
      rw [ofDocument, hparts]
      rfl
    refine ⟨shape, slots, ?_, hbuild⟩
    rw [hbuild] at hok
    rcases hslots : ofSlots shape slots ix with e | d'
    · rw [hslots, ReadError.ofBuild] at hok
      exact absurd hok (by simp)
    · rw [hslots, ReadError.ofBuild] at hok
      exact congrArg Except.ok (Except.ok.inj hok)

/-! ### Exact counting -/

theorem get?_of_isExactOn (hix : ix.IsExactOn d.shape) (i j : Nat) :
    d.get? i j ix = d.get? i j := by
  unfold get?
  split
  · rfl
  · dsimp only
    split
    · next hc => rw [hix.slot_eq _ hc]
    · rfl

theorem set_of_isExactOn (hix : ix.IsExactOn d.shape) (i j : Nat) (x : Float32) :
    d.set i j x ix = d.set i j x := by
  by_cases hc : Cell.between i j ∈ d.shape
  · simp only [set, hix.slot_eq _ hc]
  · simp only [set, hc, false_and, if_false]

theorem written_of_isExactOn (hix : ix.IsExactOn d.shape) (w : Write) :
    d.written w ix = d.written w := by
  rw [written, set_of_isExactOn hix]
  rfl

theorem afterWrites_of_isExactOn (hix : ix.IsExactOn d.shape) (writes : List Write) :
    d.afterWrites writes ix = d.afterWrites writes := by
  induction writes generalizing d with
  | nil => rfl
  | cons w writes ih =>
    have hix' : ix.IsExactOn (d.written w).shape := by rwa [shape_written]
    exact (congrArg (afterWrites · writes ix) (written_of_isExactOn hix w)).trans (ih hix')

theorem zero_of_isExactOn {demand s : Shape} (hdemand : demand.clamp? = some s)
    (hix : ix.IsExactOn s) : zero demand ix = zero demand := by
  simp only [zero, hdemand, hix.slotCount_eq]

theorem ofSlots_of_isExactOn {s : Shape} (hix : ix.IsExactOn s) (slots : Array Float32) :
    ofSlots s slots ix = ofSlots s slots := by
  simp only [ofSlots, hix.slotCount_eq]

end DistanceMatrix

end CrashTriage
