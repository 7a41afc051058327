import CrashTriage.Proofs.Matrix.Contents

/-!
# The matrix of a population

The matrix of a population is filled cell by cell, through slots with gaps between them. What is
read from it afterwards does not show any of that: **each pair of threads has the distance of these
two threads**, the one that comes first in the population being the first argument, since not every
metric is symmetric; and what belongs to no cell is zero (`DistanceMatrix.IsMatrixOf`).

There is such a matrix exactly for a population of the size that is demanded, of one kind, with two
threads or more, and for a demand of at least one row (`DistanceMatrix.ofPopulation_isMatrixOf`).
-/

namespace CrashTriage

/-- The distance of a cell is that of its two threads, whatever the other threads are. -/
theorem Population.distance_eq {threads : List Thread} {c : Cell} {a b : Thread} (metric : Metric)
    (ha : threads[c.row]? = some a) (hb : threads[c.column]? = some b) :
    distance metric threads c = metric.pairedDistance a b := by
  rw [distance, ha, hb]

namespace DistanceMatrix

variable {d : DistanceMatrix} {s demand : Shape} {threads : List Thread} {metric : Metric}

/-- What a cell holds is read under its coordinates in either order. -/
theorem Holds.get?_between {value : Cell → Float32} (h : d.Holds s value) {i j : Nat}
    (hne : i ≠ j) (hc : Cell.between i j ∈ s) : d.get? i j = some (value (Cell.between i j)) := by
  rw [get?_of_mem hne (by rwa [h.shape_eq]), h.shape_eq, h.cell _ hc]

/-- **A matrix is that of a population**, for a demand that may ask for more rows than there
are. -/
structure IsMatrixOf (d : DistanceMatrix) (threads : List Thread) (demand : Shape)
    (metric : Metric) : Prop where
  /-- The rows are cut down to those that have a cell. -/
  shape_eq : d.shape = ⟨min demand.rows (demand.columns - 1), demand.columns⟩
  /-- The storage has the size that the extent demands. -/
  size_eq : d.slots.size = d.shape.slotCount
  /-- Each pair has the distance of its two threads, in the order of the population. -/
  get?_eq (i j : Nat) (hrow : min i j < min demand.rows (demand.columns - 1))
    (hcolumn : max i j < demand.columns) :
    ∃ a b, threads[min i j]? = some a ∧ threads[max i j]? = some b
      ∧ d.get? i j = some (if i = j then 0 else metric.pairedDistance a b)
  /-- What belongs to no cell is zero. -/
  gap_eq (slot : Nat) (hslot : slot < d.slots.size)
    (hgap : ∀ c ∈ d.shape, c.slot d.shape.columns ≠ slot) : d.slots[slot]? = some 0

/-- **A matrix that holds the distances of a population is that of the population.** -/
theorem Holds.isMatrixOf (hdemand : demand.clamp? = some s)
    (hlength : threads.length = demand.columns)
    (h : d.Holds s (Population.distance metric threads)) :
    d.IsMatrixOf threads demand metric := by
  obtain ⟨-, -, rfl⟩ := Shape.clamp?_eq_some_iff.mp hdemand
  refine ⟨h.shape_eq, by rw [h.size_eq, h.shape_eq], fun i j hrow hcolumn => ?_,
    fun slot hslot hgap => ?_⟩
  · obtain ⟨a, ha⟩ : ∃ a, threads[min i j]? = some a :=
      ⟨_, List.getElem?_eq_getElem (by omega)⟩
    obtain ⟨b, hb⟩ : ∃ b, threads[max i j]? = some b :=
      ⟨_, List.getElem?_eq_getElem (by omega)⟩
    refine ⟨a, b, ha, hb, ?_⟩
    rcases eq_or_ne i j with rfl | hne
    · rw [Nat.max_self] at hcolumn
      rw [get?_self, h.shape_eq, if_pos hcolumn, if_pos rfl]
    · have hc : Cell.between i j ∈ Shape.mk (min demand.rows (demand.columns - 1)) demand.columns :=
        (Cell.between_mem_iff hne).mpr ⟨hrow, hcolumn⟩
      rw [h.get?_between hne hc, Population.distance_eq metric ha hb, if_neg hne]
  · rw [h.size_eq] at hslot
    rw [h.shape_eq] at hgap
    exact h.gap slot ⟨hslot, hgap⟩

/-- **The matrix of a population holds the distance of each pair of threads**, and there is one
exactly for a demand of the right size, with a row, over two or more threads of one kind. -/
theorem ofPopulation_isMatrixOf (threads : List Thread) (demand : Shape) (metric : Metric) :
    ((∃ d, ofPopulation threads demand metric = .ok d)
        ↔ threads.length = demand.columns ∧ 2 ≤ demand.columns ∧ 1 ≤ demand.rows
          ∧ Population.IsUniform threads)
      ∧ ∀ d, ofPopulation threads demand metric = .ok d → d.IsMatrixOf threads demand metric := by
  refine ⟨⟨?_, ?_⟩, fun d hok => ?_⟩
  · rintro ⟨d, hok⟩
    obtain ⟨hlength, hkinds, s, hdemand⟩ := of_ofPopulation hok
    obtain ⟨hrows, hcolumns, -⟩ := Shape.clamp?_eq_some_iff.mp hdemand
    exact ⟨hlength, hcolumns, hrows, hkinds⟩
  · rintro ⟨hlength, hcolumns, hrows, hkinds⟩
    have hdemand := Shape.clamp?_eq_some_iff.mpr ⟨hrows, hcolumns, rfl⟩
    obtain ⟨d, hok, -⟩ := holds_ofPopulation metric hdemand hlength hkinds
    exact ⟨d, hok⟩
  · obtain ⟨hlength, hkinds, s, hdemand⟩ := of_ofPopulation hok
    obtain ⟨d', hok', h⟩ := holds_ofPopulation metric hdemand hlength hkinds
    rw [hok] at hok'
    exact Except.ok.inj hok' ▸ h.isMatrixOf hdemand hlength

/-- Three crashes and a demand of more rows than there are, for a metric that depends on the order:
the second and the third crash are read in the other order than they were compared in. -/
theorem ofPopulation_isMatrixOf_reversed_pair :
    let a : Thread := ⟨0, .java, [.ofJavaSymbol (.named "run"), .ofJavaSymbol (.named "run")]⟩
    let b : Thread := ⟨1, .java, [.ofJavaSymbol (.named "run")]⟩
    ∃ d, ofPopulation [.empty 2 .java, a, b] ⟨7, 3⟩ .jaroWinkler = .ok d
      ∧ d.shape = ⟨2, 3⟩ ∧ d.get? 2 1 = some (Metric.jaroWinkler.pairedDistance a b) := by
  intro a b
  obtain ⟨hexists, hall⟩ := ofPopulation_isMatrixOf [.empty 2 .java, a, b] ⟨7, 3⟩ .jaroWinkler
  obtain ⟨d, hok⟩ := hexists.mpr ⟨rfl, by decide, by decide, .java, by decide⟩
  have h := hall d hok
  obtain ⟨a', b', ha, hb, hget⟩ := h.get?_eq 2 1 (by decide) (by decide)
  obtain rfl : a = a' := Option.some.inj ha
  obtain rfl : b = b' := Option.some.inj hb
  rw [if_neg (by decide)] at hget
  exact ⟨d, hok, h.shape_eq, hget⟩

end DistanceMatrix

end CrashTriage
