import CrashTriage.Shard.Basic

/-!
# Merging shards

Computed shards are put together to the distance matrix that they are pieces of. **They have to
fit**: all of one matrix, one metric and one population, each computed and inside the matrix, and
together covering every cell exactly once. Otherwise nothing is merged, and the error tells which
shard is the first that does not fit, and why (`Shard.MergeError`).

While shards are added, an `Assembly` keeps the matrix so far and, for each place in the sequence of
the cells, whether a shard has covered it. A shard may come from anywhere, with whatever extent, so
it is left open how places and slots are counted (`Indexing`).
-/

namespace CrashTriage

namespace Shard

/-- Why shards cannot be merged. The index is the position of the culprit in the list. -/
inductive MergeError where
  /-- There are no shards. -/
  | noShards
  /-- The shard is of another matrix than the first one. -/
  | shapeMismatch (index : Nat) (found expected : Shape)
  /-- The shard was computed with another metric than the first one. -/
  | metricMismatch (index : Nat) (expected found : Metric)
  /-- The shard was computed over another population than the first one. -/
  | checksumMismatch (index : Nat) (expected found : UInt32)
  /-- The shard was not computed. -/
  | notComputed (index : Nat)
  /-- The shard has another number of distances than cells. -/
  | lengthMismatch (index expected found : Nat)
  /-- The run of the shard does not lie inside the matrix. -/
  | outOfRange (index : Nat)
  /-- The shard has a cell in common with an earlier one. -/
  | overlap (index : Nat)
  /-- Some cells belong to no shard. -/
  | incomplete (covered total : Nat)
  /-- The matrix itself is at fault. -/
  | comparison (cause : ComparisonError)
deriving DecidableEq, Repr

namespace MergeError

/-- A checksum in a message. -/
def checksumText (checksum : UInt32) : String :=
  "0x" ++ Text.paddedHex 8 checksum.toNat

/-- The message for a cause. -/
def message : MergeError → String
  | noShards => "no partitions to merge"
  | shapeMismatch index found expected =>
    "partition " ++ toString index ++ " covers a " ++ found.text ++ " matrix, expected "
      ++ expected.text
  | metricMismatch index expected found =>
    "partition " ++ toString index ++ " was computed with " ++ found.text ++ ", expected "
      ++ expected.text
  | checksumMismatch index expected found =>
    "partition " ++ toString index ++ " has checksum " ++ checksumText found ++ ", expected "
      ++ checksumText expected
  | notComputed index => "partition " ++ toString index ++ " has not been computed"
  | lengthMismatch index expected found =>
    "partition " ++ toString index ++ " holds " ++ toString found ++ " distances but claims "
      ++ toString expected ++ " cells"
  | outOfRange index =>
    "partition " ++ toString index ++ " reaches outside of the distance matrix"
  | overlap index => "partition " ++ toString index ++ " overlaps an earlier partition"
  | incomplete covered total =>
    "partitions cover " ++ toString covered ++ " of " ++ toString total ++ " cells"
  | comparison cause => cause.message

end MergeError

/-- A matrix that shards are being added to. -/
structure Assembly where
  /-- The matrix so far. -/
  matrix : DistanceMatrix
  /-- For each place among the cells, whether a shard covers it. -/
  covered : Array Bool

namespace Assembly

/-- A matrix of zeros that no shard covers yet. -/
def start (demand : Shape) (ix : Indexing := .exact) : Except MergeError Assembly :=
  match DistanceMatrix.zero demand ix with
  | .ok matrix => .ok { matrix, covered := Array.replicate (ix.cellCount matrix.shape) false }
  | .error cause => .error (.comparison cause)

/-- Adds the distances of consecutive cells, the first of which is at the given place. -/
def addCells (index : Nat) (items : List (Cell × Float32)) (position : Nat) (asm : Assembly)
    (ix : Indexing := .exact) : Except MergeError Assembly :=
  match items with
  | [] => .ok asm
  | (c, distance) :: rest =>
    if asm.covered[position]?.any id then .error (.overlap index)
    else
      match asm.matrix.set c.row c.column distance ix with
      | .error cause => .error (.comparison cause)
      | .ok matrix =>
        addCells index rest (position + 1)
          { matrix, covered := asm.covered.setIfInBounds position true } ix

/-- Adds a shard, which has to agree with the given one in matrix, metric and checksum. -/
def add (model : Shard) (checksum : UInt32) (asm : Assembly) (index : Nat) (s : Shard)
    (ix : Indexing := .exact) : Except MergeError Assembly :=
  if s.shape ≠ asm.matrix.shape then
    .error (.shapeMismatch index s.shape asm.matrix.shape)
  else if s.metric ≠ model.metric then
    .error (.metricMismatch index model.metric s.metric)
  else
    match s.distances, s.checksum with
    | some distances, some found =>
      if found ≠ checksum then .error (.checksumMismatch index checksum found)
      else if distances.length ≠ s.length then
        .error (.lengthMismatch index s.length distances.length)
      else
        match s.start? ix with
        | none => .error (.outOfRange index)
        | some position => asm.addCells index (s.cells.zip distances) position ix
    | _, _ => .error (.notComputed index)

/-- Adds shards one by one, the first of which has the given index. -/
def addAll (model : Shard) (checksum : UInt32) (index : Nat) (shards : List Shard)
    (asm : Assembly) (ix : Indexing := .exact) : Except MergeError Assembly :=
  match shards with
  | [] => .ok asm
  | s :: shards => do
    let asm ← asm.add model checksum index s ix
    addAll model checksum (index + 1) shards asm ix

/-- The matrix, if every cell is covered. -/
def finish (asm : Assembly) : Except MergeError DistanceMatrix :=
  let covered := asm.covered.countP id
  if covered = asm.covered.size then .ok asm.matrix
  else .error (.incomplete covered asm.covered.size)

end Assembly

/-- The matrix that the shards are pieces of. -/
def merge (shards : List Shard) (ix : Indexing := .exact) : Except MergeError DistanceMatrix :=
  match shards with
  | [] => .error .noShards
  | model :: shards =>
    match model.checksum with
    | none => .error (.notComputed 0)
    | some checksum => do
      let asm ← Assembly.start model.shape ix
      let asm ← asm.addAll model checksum 0 (model :: shards) ix
      asm.finish

end Shard

end CrashTriage
