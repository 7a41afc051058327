import CrashTriage.Grid.Indexing
import CrashTriage.Population
import CrashTriage.Text.FixedPoint

/-!
# Distance matrices

A `DistanceMatrix` holds the distances of the first `m` threads of a population to all `n` of them.
It reads as a symmetric map on pairs of indices with a zero diagonal: the distance of `i` and `j` is
kept in the slot of the one cell that lies above the diagonal, whichever of the two comes first.
Pairs without a cell, of two threads behind the first `m`, have no distance.

The extent of a matrix may come from outside, so it is left open how slots are counted
(`Indexing`).

## Main definitions

* `DistanceMatrix.zero`, `DistanceMatrix.ofSlots`, `DistanceMatrix.ofPopulation`: a matrix of
  zeros, of given slots, and of the distances in a population.
* `DistanceMatrix.get?`, `DistanceMatrix.set`: reading and writing the distance of a pair.
* `DistanceMatrix.Write`, `DistanceMatrix.afterWrites`: runs of writes, of which some may be refused.
* `DistanceMatrix.text`: one line for each compared thread.
-/

namespace CrashTriage

/-- The distances of the first threads of a population to all of them. -/
structure DistanceMatrix where
  /-- The number of compared threads and of all threads. -/
  shape : Shape
  /-- The distances, each in the slot of its cell. -/
  slots : Array Float32

namespace DistanceMatrix

/-- The storage has the size that the extent demands, and a matrix can have that extent. -/
def IsWellFormed (d : DistanceMatrix) : Prop :=
  d.shape.IsProper ∧ d.slots.size = d.shape.slotCount

/-! ### Building a matrix -/

/-- The matrix of zeros for a demand, which may ask for more rows than there are. -/
def zero (demand : Shape) (ix : Indexing := .exact) : Except ComparisonError DistanceMatrix :=
  match demand.clamp? with
  | some shape => .ok { shape, slots := Array.replicate (ix.slotCount shape) 0 }
  | none => .error (.invalidShape demand)

/-- The matrix with the given storage. Here the extent has to be proper as it stands. -/
def ofSlots (shape : Shape) (slots : Array Float32) (ix : Indexing := .exact) :
    Except ComparisonError DistanceMatrix :=
  if ¬shape.IsProper then .error (.invalidShape shape)
  else if slots.size ≠ ix.slotCount shape then
    .error (.storageSize (ix.slotCount shape) slots.size)
  else .ok { shape, slots }

/-! ### Reading and writing -/

/-- The distance of two threads, given in either order. -/
def get? (d : DistanceMatrix) (i j : Nat) (ix : Indexing := .exact) : Option Float32 :=
  if i = j then if i < d.shape.columns then some 0 else none
  else
    let c := Cell.between i j
    if c ∈ d.shape then d.slots[ix.slot d.shape.columns c]? else none

/-- The matrix with another distance of two threads, given in either order. The diagonal can be
written to, without effect. -/
def set (d : DistanceMatrix) (i j : Nat) (distance : Float32) (ix : Indexing := .exact) :
    Except ComparisonError DistanceMatrix :=
  let refused := ComparisonError.outOfRange { row := i, column := j } d.shape
  if i = j then if i < d.shape.columns then .ok d else .error refused
  else
    let c := Cell.between i j
    let slot := ix.slot d.shape.columns c
    if c ∈ d.shape ∧ slot < d.slots.size then
      .ok { d with slots := d.slots.setIfInBounds slot distance }
    else .error refused

/-- The pairs of threads that have a distance of their own, row by row. -/
def cells (d : DistanceMatrix) : List Cell :=
  d.shape.cells

/-! ### Runs of writes -/

/-- A demand to write the distance of two threads. -/
structure Write where
  /-- One of the threads. -/
  left : Nat
  /-- The other one. -/
  right : Nat
  /-- Their distance. -/
  distance : Float32

/-- The matrix after a write. It is as before if the write was refused. -/
def written (d : DistanceMatrix) (w : Write) (ix : Indexing := .exact) : DistanceMatrix :=
  match d.set w.left w.right w.distance ix with
  | .ok d' => d'
  | .error _ => d

/-- The matrix after some writes, of which each may be refused. -/
def afterWrites (d : DistanceMatrix) (writes : List Write) (ix : Indexing := .exact) :
    DistanceMatrix :=
  writes.foldl (fun d w => d.written w ix) d

/-! ### The matrix of a population -/

/-- The matrix with the distances of a population in the given cells. -/
def fill (metric : Metric) (threads : List Thread) :
    List Cell → DistanceMatrix → Except ComparisonError DistanceMatrix
  | [], d => .ok d
  | c :: cs, d => do
    let d ← d.set c.row c.column (Population.distance metric threads c)
    fill metric threads cs d

/-- The distances of the first threads of a population to all of them, for a demand that may ask
for more rows than there are. -/
def ofPopulation (threads : List Thread) (demand : Shape) (metric : Metric) :
    Except ComparisonError DistanceMatrix := do
  Population.checkSize threads demand.columns
  Population.checkKinds threads
  let d ← zero demand
  fill metric threads d.cells d

/-! ### Persisted form -/

/-- The extent and the storage, with each distance written by `write`. -/
def toDocument (d : DistanceMatrix)
    (write : Float32 → Document := fun x => .real x.toFloat) : Document :=
  .record
    (Document.field "m" (.natural d.shape.rows)
      ++ Document.field "n" (.natural d.shape.columns)
      ++ Document.field "distances" (.list (d.slots.toList.map write)))

/-- Reads the extent and the storage of a matrix. -/
def partsOf? (doc : Document) : Option (Shape × Array Float32) := do
  let fields ← doc.record?
  let rows ← Document.required fields "m" Document.size?
  let columns ← Document.required fields "n" Document.size?
  let slots ← Document.required fields "distances" (Document.list? Document.single?)
  return ({ rows, columns }, slots.toArray)

/-- Reads a matrix. The storage has to have the size that the extent demands. -/
def ofDocument (doc : Document) (ix : Indexing := .exact) : Except ReadError DistanceMatrix := do
  let (shape, slots) ← ReadError.ofForm (partsOf? doc)
  ReadError.ofBuild (ofSlots shape slots ix)

/-! ### Text -/

/-- The distances of one thread to all of the population, with four places. -/
def rowText (d : DistanceMatrix) (i : Nat) (ix : Indexing := .exact) : String :=
  " ".intercalate ((List.range d.shape.columns).map fun j =>
    Text.fixed 4 ((d.get? i j ix).getD 0)) ++ "\n"

/-- One line for each compared thread. -/
def text (d : DistanceMatrix) (ix : Indexing := .exact) : String :=
  String.join ((List.range d.shape.rows).map fun i => d.rowText i ix)

end DistanceMatrix

end CrashTriage
