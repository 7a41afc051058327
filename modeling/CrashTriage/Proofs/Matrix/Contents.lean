import CrashTriage.Proofs.Matrix.Access
import Mathlib.Logic.Function.Basic

/-!
# What a distance matrix holds

A distance matrix is told by its extent and by the value of each of its cells: the gaps of the
storage always hold zero. `DistanceMatrix.Holds` says so of a matrix, and two matrices that hold
the same are the same, slot by slot (`DistanceMatrix.Holds.eq`). Building a matrix of zeros,
writing a cell and filling in the distances of a population are then statements about functions on
cells, and the storage is not looked at again.

* `DistanceMatrix.holds_zero`, `DistanceMatrix.Holds.set`: what the operations hold;
* `DistanceMatrix.holds_ofPopulation`, `DistanceMatrix.of_ofPopulation`: what the matrix of a
  population holds, and when there is one.
-/

namespace CrashTriage

/-! ### Populations that can be compared -/

namespace Population

variable {threads : List Thread}

theorem checkSize_eq_ok_iff {expected : Nat} :
    checkSize threads expected = .ok () ↔ threads.length = expected := by
  unfold checkSize
  split
  · next h => exact iff_of_true rfl h
  · next h => exact iff_of_false (by simp) h

/-- All threads are of one kind. -/
def IsUniform (threads : List Thread) : Prop :=
  ∃ kind, ∀ t ∈ threads, t.kind = kind

theorem checkKinds_eq_ok_iff : checkKinds threads = .ok () ↔ IsUniform threads := by
  cases threads with
  | nil => exact iff_of_true rfl ⟨.core, by simp⟩
  | cons t ts =>
    rw [checkKinds]
    split
    · next other hfind =>
      refine iff_of_false (by simp) ?_
      rintro ⟨kind, hkind⟩
      have hne : other.kind ≠ t.kind := by simpa using List.find?_some hfind
      have hmem : other ∈ ts := List.mem_of_find?_eq_some hfind
      exact hne ((hkind other (List.mem_cons_of_mem _ hmem)).trans
        (hkind t List.mem_cons_self).symm)
    · next hfind =>
      refine iff_of_true rfl ⟨t.kind, fun u hu => ?_⟩
      rcases List.mem_cons.mp hu with rfl | hu
      · rfl
      · simpa using List.find?_eq_none.mp hfind u hu

/-- It takes two threads to be of different kinds. -/
theorem isUniform_of_length_lt (h : threads.length < 2) : IsUniform threads := by
  match threads with
  | [] => exact ⟨.core, by simp⟩
  | [t] => exact ⟨t.kind, by simp⟩
  | _ :: _ :: _ => exact absurd h (by simp)

theorem eq_of_checkKinds_eq_error {e : ComparisonError} (h : checkKinds threads = .error e) :
    ∃ expected found, e = .kindMismatch expected found := by
  rcases threads with _ | ⟨t, ts⟩
  · exact absurd h (by simp [checkKinds])
  · rw [checkKinds] at h
    split at h
    · next other hfind => exact ⟨t.kind, other.kind, (Except.error.inj h).symm⟩
    · exact absurd h (by simp)

end Population

namespace DistanceMatrix

/-! ### Contents -/

/-- **What a matrix holds**: it has this extent, the slot of each cell has the value that the cell
is given, and the gaps between the rows are zero. -/
structure Holds (d : DistanceMatrix) (s : Shape) (value : Cell → Float32) : Prop where
  /-- The extent. -/
  shape_eq : d.shape = s
  /-- The storage ends with the last cell. -/
  size_eq : d.slots.size = s.slotCount
  /-- The slot of a cell has its value. -/
  cell : ∀ c ∈ s, d.slots[c.slot s.columns]? = some (value c)
  /-- A gap is zero. -/
  gap : ∀ slot, s.IsGap slot → d.slots[slot]? = some 0

namespace Holds

variable {d d' : DistanceMatrix} {s : Shape} {value value' : Cell → Float32}

/-- Only the values of the cells of the matrix matter. -/
theorem congr (h : d.Holds s value) (heq : ∀ c ∈ s, value c = value' c) : d.Holds s value' where
  shape_eq := h.shape_eq
  size_eq := h.size_eq
  cell c hc := by rw [h.cell c hc, heq c hc]
  gap := h.gap

/-- **Two matrices that hold the same are the same**, the gaps included. -/
theorem eq (h : d.Holds s value) (h' : d'.Holds s value) : d = d' := by
  have hslots : d.slots = d'.slots := by
    refine Array.ext_getElem? fun slot => ?_
    rcases Nat.lt_or_ge slot s.slotCount with hlt | hge
    · rcases s.isGap_or_exists hlt with hgap | ⟨c, hc, rfl⟩
      · rw [h.gap slot hgap, h'.gap slot hgap]
      · rw [h.cell c hc, h'.cell c hc]
    · rw [Array.getElem?_eq_none (by rw [h.size_eq]; exact hge),
        Array.getElem?_eq_none (by rw [h'.size_eq]; exact hge)]
  have hshape := h.shape_eq.trans h'.shape_eq.symm
  cases d
  cases d'
  exact congrArg₂ DistanceMatrix.mk hshape hslots

theorem isWellFormed (hs : s.IsProper) (h : d.Holds s value) : d.IsWellFormed := by
  rw [IsWellFormed, h.shape_eq]
  exact ⟨hs, h.size_eq⟩

/-- What a cell holds is read under its own coordinates. -/
theorem get?_eq (h : d.Holds s value) {c : Cell} (hc : c ∈ s) :
    d.get? c.row c.column = some (value c) := by
  have hbetween := Cell.between_row_column hc.2.1
  have hcell : Cell.between c.row c.column ∈ d.shape := by rwa [hbetween, h.shape_eq]
  rw [get?_of_mem hc.2.1.ne hcell, hbetween, h.shape_eq, h.cell c hc]

/-- **Writing a cell changes what the matrix holds there, and nothing else.** -/
theorem set (hs : s.IsProper) (h : d.Holds s value) {c : Cell} (hc : c ∈ s) (x : Float32) :
    ∃ d', d.set c.row c.column x = .ok d' ∧ d'.Holds s (Function.update value c x) := by
  have hlt : c.slot s.columns < d.slots.size := by
    rw [h.size_eq]
    exact Shape.slot_lt_slotCount hs hc
  refine ⟨{ d with slots := d.slots.setIfInBounds (c.slot s.columns) x }, ?_, ?_⟩
  · have hbetween := Cell.between_row_column hc.2.1
    have hcell : Cell.between c.row c.column ∈ d.shape := by rwa [hbetween, h.shape_eq]
    rw [set_of_mem (h.isWellFormed hs) hc.2.1.ne hcell, hbetween, h.shape_eq]
  · refine ⟨h.shape_eq, by rw [Array.size_setIfInBounds, h.size_eq], ?_, ?_⟩
    · intro c' hc'
      by_cases heq : c' = c
      · rw [heq, Function.update_self, Array.getElem?_setIfInBounds_self_of_lt hlt]
      · -- another cell has another slot
        have hslot : c.slot s.columns ≠ c'.slot s.columns := fun hcon =>
          heq (Shape.slot_injective hc' hc hcon.symm)
        rw [Function.update_of_ne heq, Array.getElem?_setIfInBounds_ne hslot, h.cell c' hc']
    · intro slot hgap
      rw [Array.getElem?_setIfInBounds_ne (hgap.2 c hc), h.gap slot hgap]

end Holds

variable {s demand : Shape}

/-- A matrix of zeros is had for every extent that a matrix can have. -/
theorem holds_zero (hs : s.IsProper) (hdemand : demand.clamp? = some s) :
    ∃ d, zero demand = .ok d ∧ d.Holds s fun _ => 0 := by
  refine ⟨⟨s, Array.replicate s.slotCount 0⟩, by rw [zero, hdemand], rfl, Array.size_replicate,
    fun c hc => ?_, fun slot hgap => ?_⟩
  · rw [Array.getElem?_replicate, if_pos (Shape.slot_lt_slotCount hs hc)]
  · rw [Array.getElem?_replicate, if_pos hgap.1]

/-! ### The matrix of a population -/

/-- **Filling cells gives each of them its distance** and leaves the others alone. -/
theorem Holds.fill (metric : Metric) (threads : List Thread) (hs : s.IsProper) {cs : List Cell}
    (hcs : ∀ c ∈ cs, c ∈ s) {d : DistanceMatrix} {value : Cell → Float32} (h : d.Holds s value) :
    ∃ d', fill metric threads cs d = .ok d'
      ∧ d'.Holds s fun c =>
          if c ∈ cs then Population.distance metric threads c else value c := by
  induction cs generalizing d value with
  | nil => exact ⟨d, rfl, h.congr fun c _ => by simp⟩
  | cons c cs ih =>
    obtain ⟨d₁, hset, h₁⟩ := h.set hs (hcs c List.mem_cons_self)
      (Population.distance metric threads c)
    obtain ⟨d₂, hfill, h₂⟩ := ih (fun c' hc' => hcs c' (List.mem_cons_of_mem c hc')) h₁
    refine ⟨d₂, ?_, h₂.congr fun c' _ => ?_⟩
    · rw [DistanceMatrix.fill, hset]
      exact hfill
    · -- a cell that comes again is given the same distance again
      by_cases hmem : c' ∈ cs
      · rw [if_pos hmem, if_pos (List.mem_cons_of_mem c hmem)]
      · by_cases heq : c' = c
        · rw [if_neg hmem, heq, Function.update_self, if_pos List.mem_cons_self]
        · rw [if_neg hmem, Function.update_of_ne heq,
            if_neg fun hcon => (List.mem_cons.mp hcon).elim heq hmem]

/-- **The matrix of a population holds the distance of every two threads** that it has a cell
for. -/
theorem holds_ofPopulation {threads : List Thread} (metric : Metric)
    (hdemand : demand.clamp? = some s) (hlength : threads.length = demand.columns)
    (hkinds : Population.IsUniform threads) :
    ∃ d, ofPopulation threads demand metric = .ok d
      ∧ d.Holds s (Population.distance metric threads) := by
  have hs := Shape.isProper_of_clamp? hdemand
  obtain ⟨d₀, hzero, h₀⟩ := holds_zero hs hdemand
  have hcells : ∀ c ∈ d₀.cells, c ∈ s := fun c hc => by
    rw [cells, h₀.shape_eq] at hc
    exact (Shape.mem_cells_iff hs).mp hc
  obtain ⟨d, hfill, h⟩ := h₀.fill metric threads hs hcells
  refine ⟨d, ?_, h.congr fun c hc => if_pos ?_⟩
  · rw [ofPopulation, Population.checkSize_eq_ok_iff.mpr hlength,
      Population.checkKinds_eq_ok_iff.mpr hkinds, hzero]
    exact hfill
  · rw [cells, h₀.shape_eq]
    exact (Shape.mem_cells_iff hs).mpr hc

theorem ofPopulation_eq_error_of_checkKinds {threads : List Thread} {e : ComparisonError}
    (metric : Metric) (hlength : threads.length = demand.columns)
    (hkinds : Population.checkKinds threads = .error e) :
    ofPopulation threads demand metric = .error e := by
  rw [ofPopulation, Population.checkSize_eq_ok_iff.mpr hlength, hkinds]
  rfl

theorem ofPopulation_eq_error_of_clamp? {threads : List Thread} (metric : Metric)
    (hlength : threads.length = demand.columns) (hkinds : Population.IsUniform threads)
    (hdemand : demand.clamp? = none) :
    ofPopulation threads demand metric = .error (.invalidShape demand) := by
  rw [ofPopulation, Population.checkSize_eq_ok_iff.mpr hlength,
    Population.checkKinds_eq_ok_iff.mpr hkinds, zero, hdemand]
  rfl

/-- **There is no matrix of a population otherwise**: it has to have the right size, to be of one
kind, and to be large enough. -/
theorem of_ofPopulation {threads : List Thread} {metric : Metric} {d : DistanceMatrix}
    (hok : ofPopulation threads demand metric = .ok d) :
    threads.length = demand.columns ∧ Population.IsUniform threads
      ∧ ∃ s, demand.clamp? = some s := by
  have hlength : threads.length = demand.columns := by
    rw [← Population.checkSize_eq_ok_iff]
    rcases hsize : Population.checkSize threads demand.columns with e | ⟨⟩
    · rw [ofPopulation, hsize] at hok
      exact absurd hok (by simp [bind, Except.bind])
    · rfl
  have hkinds : Population.IsUniform threads := by
    rw [← Population.checkKinds_eq_ok_iff]
    rcases hkinds : Population.checkKinds threads with e | ⟨⟩
    · rw [ofPopulation_eq_error_of_checkKinds metric hlength hkinds] at hok
      exact absurd hok (by simp)
    · rfl
  rcases hdemand : demand.clamp? with _ | s
  · rw [ofPopulation_eq_error_of_clamp? metric hlength hkinds hdemand] at hok
    exact absurd hok (by simp)
  · exact ⟨hlength, hkinds, s, rfl⟩

/-- **What the matrix of a population holds**, where there is one. -/
theorem holds_of_ofPopulation {threads : List Thread} {metric : Metric} {d : DistanceMatrix}
    (hok : ofPopulation threads demand metric = .ok d) :
    ∃ s, s.IsProper ∧ d.Holds s (Population.distance metric threads) := by
  obtain ⟨hlength, hkinds, s, hdemand⟩ := of_ofPopulation hok
  obtain ⟨d', hok', h⟩ := holds_ofPopulation metric hdemand hlength hkinds
  rw [hok] at hok'
  exact ⟨s, Shape.isProper_of_clamp? hdemand, Except.ok.inj hok' ▸ h⟩

end DistanceMatrix

end CrashTriage
