import CrashTriage.Condense.Basic
import CrashTriage.Shard.Merge
import CrashTriage.Shard.Plan

/-!
# Settings

How a population is turned into a distance matrix: by which metric, for how many of its threads,
in how many shards, and whether the threads are condensed first. `Settings.distances` does all of
it at once.

Settings that are built or changed by the functions here ask for at least one row and one shard
(`Settings.IsValid`); a demand for none is refused and changes nothing (`Settings.changed`).
Persisted settings are taken as they are.
-/

namespace CrashTriage

/-- How a population is turned into a distance matrix. -/
structure Settings where
  /-- The metric. -/
  metric : Metric := .edits
  /-- How many threads are compared with the whole population; if unset, all but the last one. -/
  rows : Option Nat := none
  /-- In how many shards the work is done. -/
  shardCount : Nat := 1
  /-- Whether the threads are condensed first. -/
  condense : Bool := false
deriving DecidableEq, Repr

namespace Settings

/-- Why settings are refused. -/
inductive SettingsError where
  /-- No row was asked for. -/
  | noRows
  /-- No shard was asked for. -/
  | noShards
deriving DecidableEq, Repr

/-- The message for a refusal. -/
def SettingsError.message : SettingsError → String
  | .noRows => "A distance matrix needs at least one row"
  | .noShards => "Shard count must be positive"

/-- There is a row and a shard. -/
def IsValid (s : Settings) : Prop :=
  s.rows ≠ some 0 ∧ 1 ≤ s.shardCount

instance (s : Settings) : Decidable s.IsValid :=
  inferInstanceAs (Decidable (s.rows ≠ some 0 ∧ 1 ≤ s.shardCount))

/-- The settings with another metric. -/
def withMetric (s : Settings) (metric : Metric) : Settings :=
  { s with metric }

/-- The settings with another number of rows. -/
def withRows (s : Settings) (rows : Option Nat) : Except SettingsError Settings :=
  if rows = some 0 then .error .noRows else .ok { s with rows }

/-- The settings with another number of shards. -/
def withShardCount (s : Settings) (count : Nat) : Except SettingsError Settings :=
  if count = 0 then .error .noShards else .ok { s with shardCount := count }

/-- The settings with another answer to whether threads are condensed. -/
def withCondense (s : Settings) (condense : Bool) : Settings :=
  { s with condense }

/-- Settings with the given values, where the number of shards may be left at its default. -/
def make (metric : Metric) (rows shardCount : Option Nat) (condense : Bool) :
    Except SettingsError Settings := do
  let s ← ({ metric, condense } : Settings).withRows rows
  s.withShardCount (shardCount.getD 1)

/-- A demand to change settings. -/
inductive Change where
  /-- Another metric. -/
  | metric (metric : Metric)
  /-- Another number of rows. -/
  | rows (rows : Option Nat)
  /-- Another number of shards. -/
  | shardCount (count : Nat)
  /-- Another answer to whether threads are condensed. -/
  | condense (condense : Bool)
deriving DecidableEq, Repr

/-- The settings as demanded, or the refusal. -/
def change (s : Settings) : Change → Except SettingsError Settings
  | .metric metric => .ok (s.withMetric metric)
  | .rows rows => s.withRows rows
  | .shardCount count => s.withShardCount count
  | .condense condense => .ok (s.withCondense condense)

/-- The settings after a demand. They are as before if it was refused. -/
def changed (s : Settings) (c : Change) : Settings :=
  match s.change c with
  | .ok s' => s'
  | .error _ => s

/-- **Settings that are reached** from the default ones, or from some that could be built, by
demands to change them. -/
inductive IsReached : Settings → Prop
  /-- The default settings. -/
  | default : IsReached {}
  /-- Settings that were built. -/
  | make {metric : Metric} {rows shardCount : Option Nat} {condense : Bool} {s : Settings}
      (hok : make metric rows shardCount condense = .ok s) : IsReached s
  /-- What becomes of them by a demand. -/
  | changed {s : Settings} (h : IsReached s) (c : Change) : IsReached (s.changed c)

/-- The number of rows for a population of `n` threads. -/
def rowsFor (s : Settings) (n : Nat) : Nat :=
  s.rows.getD (n - 1)

/-! ### Persisted form -/

/-- All settings; an unset number of rows is written as no value. -/
def toDocument (s : Settings) : Document :=
  .record
    (Document.field "metric" s.metric.toDocument
      ++ Document.field "rows" (s.rows.elim .null .natural)
      ++ Document.field "shard_count" (.natural s.shardCount)
      ++ Document.field "normalize_threads" (.flag s.condense))

/-- Reads settings. Only the number of rows may be missing. -/
def ofDocument? (d : Document) : Option Settings := do
  let fields ← d.record?
  let metric ← Document.required fields "metric" Metric.ofDocument?
  let rows ← Document.nullable fields "rows" Document.size?
  let shardCount ← Document.required fields "shard_count" Document.size?
  let condense ← Document.required fields "normalize_threads" Document.flag?
  return { metric, rows, shardCount, condense }

/-! ### From a population to its matrix -/

/-- Why a population has no distance matrix under the settings. -/
inductive RunError where
  /-- The work on a population of this size cannot be planned. -/
  | planning (size : Nat) (cause : ComparisonError)
  /-- A shard cannot be computed. -/
  | computing (cause : ComparisonError)
  /-- The shards do not fit together. -/
  | merging (cause : Shard.MergeError)
deriving DecidableEq, Repr

/-- The message for a cause. -/
def RunError.message : RunError → String
  | .planning size cause =>
    "Failed to partition a population of " ++ toString size ++ " threads: " ++ cause.message
  | .computing cause => cause.message
  | .merging cause => cause.message

/-- The threads as they are compared. -/
def population (s : Settings) (threads : List Thread) : List Thread :=
  if s.condense then threads.map Thread.condense else threads

/-- The distance matrix of a population. -/
def distances (s : Settings) (threads : List Thread) : Except RunError DistanceMatrix := do
  let threads := s.population threads
  let n := threads.length
  let shards ← (Shard.plan { rows := s.rowsFor n, columns := n } s.metric s.shardCount).mapError
    (RunError.planning n)
  let shards ← (shards.mapM fun s => Shard.compute s threads).mapError RunError.computing
  (Shard.merge shards).mapError RunError.merging

end Settings

end CrashTriage
