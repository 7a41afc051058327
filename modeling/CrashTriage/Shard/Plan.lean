import CrashTriage.Shard.Basic

/-!
# Planning shards

The cells of a matrix are divided into runs that follow each other without a gap. **No two runs
differ in length by more than one**, the longer ones come first, and no run is empty: there are as
many shards as were asked for, or one for each cell if there are fewer cells.
-/

namespace CrashTriage

namespace Shard

/-- The lengths of `count` runs over `total` cells. -/
def runLengths (total count : Nat) : List Nat :=
  (List.range count).map fun k => total / count + (if k < total % count then 1 else 0)

/-- Shards of the given lengths that follow each other from a place in the matrix on. -/
def consecutive (shape : Shape) (metric : Metric) :
    (position : Nat) → List Nat → Except ComparisonError (List Shard)
  | _, [] => .ok []
  | position, length :: lengths =>
    match shape.cellAt? position with
    | some first => do
      let shards ← consecutive shape metric (position + length) lengths
      return { shape, first, length, metric } :: shards
    | none => .error (.outOfRange { row := shape.rows, column := shape.columns } shape)

/-- The shards of a matrix, at most `count` of them, for a demand that may ask for more rows than
there are. -/
def plan (demand : Shape) (metric : Metric) (count : Nat) (ix : Indexing := .exact) :
    Except ComparisonError (List Shard) :=
  if count = 0 then .error .noShards
  else
    match demand.clamp? with
    | none => .error (.invalidShape demand)
    | some shape =>
      let total := ix.cellCount shape
      consecutive shape metric 0 (runLengths total (min count total))

end Shard

end CrashTriage
