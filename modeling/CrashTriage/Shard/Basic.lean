import CrashTriage.DistanceMatrix

/-!
# Shards

A `Shard` is a piece of the work on a distance matrix: a run of consecutive cells, and – once it
was computed – their distances, with the checksum of the population that they belong to. It is a
plain value, so it can be computed at another place and handed back.

A shard does not know whether its run lies inside the matrix. That is checked where it matters:
when the shard is computed, and when shards are merged (`Shard.start?`).

It can be computed any number of times, over whatever populations: as a new value
(`Shard.compute`), or in place (`Shard.call`, `Shard.afterCalls`).
-/

namespace CrashTriage

/-- A run of cells of a distance matrix, with their distances once they are computed. -/
structure Shard where
  /-- The extent of the matrix. -/
  shape : Shape
  /-- The first cell of the run. -/
  first : Cell
  /-- The length of the run. -/
  length : Nat
  /-- The metric of the distances. -/
  metric : Metric
  /-- The distances of the cells, in their order. -/
  distances : Option (List Float32) := none
  /-- The checksum of the population. -/
  checksum : Option UInt32 := none

namespace Shard

/-- The shard with distances that were computed elsewhere, and the checksum they came with. -/
def restore (s : Shard) (distances : List Float32) (checksum : UInt32) : Shard :=
  { s with distances := some distances, checksum := some checksum }

/-- Whether the run is empty. -/
def isEmpty (s : Shard) : Bool :=
  s.length == 0

/-- Whether the shard was computed. -/
def isComputed (s : Shard) : Bool :=
  s.distances.isSome && s.checksum.isSome

/-- The cells of the run, in the order of their distances. -/
def cells (s : Shard) : List Cell :=
  s.shape.run s.first s.length

/-- The place of the first cell among the cells of the matrix, if the whole run lies inside of
it. -/
def start? (s : Shard) (ix : Indexing := .exact) : Option Nat :=
  if s.first ∈ s.shape ∧ s.shape.rows < s.shape.columns then
    let start := ix.position s.shape.columns s.first
    if start + s.length ≤ ix.cellCount s.shape then some start else none
  else none

/-- The shard with the distances of its cells in a population. -/
def compute (s : Shard) (threads : List Thread) : Except ComparisonError Shard := do
  Population.checkSize threads s.shape.columns
  if s.start?.isNone then throw (.outOfRange s.first s.shape)
  Population.checkKinds threads
  return s.restore (s.cells.map (Population.distance s.metric threads))
    (Population.checksum threads)

/-- Computes a shard in place: first it is asked what can be wrong, then the distances are written,
and then the checksum. -/
def computeInPlace (threads : List Thread) : ExceptT ComparisonError (StateM Shard) Unit := do
  let s ← get
  MonadExcept.ofExcept (Population.checkSize threads s.shape.columns)
  if s.start?.isNone then throw (.outOfRange s.first s.shape)
  MonadExcept.ofExcept (Population.checkKinds threads)
  let distances := s.cells.map (Population.distance s.metric threads)
  modify fun s => { s with distances := some distances }
  modify fun s => { s with checksum := some (Population.checksum threads) }

/-- The outcome of a call, and the shard after it. -/
def call (s : Shard) (threads : List Thread) : Except ComparisonError Unit × Shard :=
  ((computeInPlace threads).run.run s).run

/-- The shard after calls over these populations, one after the other. -/
def afterCalls (s : Shard) (calls : List (List Thread)) : Shard :=
  calls.foldl (fun s threads => (s.call threads).2) s

/-- Whether the shard was computed over a population with the checksum of this one. -/
def matchesChecksum (s : Shard) (threads : List Thread) : Bool :=
  s.checksum == some (Population.checksum threads)

/-! ### Persisted form -/

/-- The run and the metric, and what was computed, with each distance written by `write`. -/
def toDocument (s : Shard) (write : Float32 → Document := fun x => .real x.toFloat) :
    Document :=
  .record
    (Document.field "m" (.natural s.shape.rows)
      ++ Document.field "n" (.natural s.shape.columns)
      ++ Document.field "m_begin" (.natural s.first.row)
      ++ Document.field "n_begin" (.natural s.first.column)
      ++ Document.field "len" (.natural s.length)
      ++ Document.field "metric" s.metric.toDocument
      ++ Document.optionalField "distances" (s.distances.map fun ds => .list (ds.map write))
      ++ Document.optionalField "checksum" (s.checksum.map .ofWord32))

/-- Reads a shard. Whether its run lies inside the matrix is not asked. -/
def ofDocument? (d : Document) : Option Shard := do
  let fields ← d.record?
  let rows ← Document.required fields "m" Document.size?
  let columns ← Document.required fields "n" Document.size?
  let row ← Document.required fields "m_begin" Document.size?
  let column ← Document.required fields "n_begin" Document.size?
  let length ← Document.required fields "len" Document.size?
  let metric ← Document.required fields "metric" Metric.ofDocument?
  let distances ← Document.nullable fields "distances" (Document.list? Document.single?)
  let checksum ← Document.nullable fields "checksum" Document.word32?
  return {
    shape := { rows, columns }, first := { row, column }
    length, metric, distances, checksum }

end Shard

end CrashTriage
