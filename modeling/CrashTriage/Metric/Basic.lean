import CrashTriage.Document
import CrashTriage.Metric.Edit
import CrashTriage.Metric.Jaccard
import CrashTriage.Metric.JaroWinkler

/-!
# Metrics

The four ways to compare two sequences of frames. Three of them are distances, zero for sequences
that do not differ; the Jaro–Winkler metric is a similarity, one for such sequences.
-/

namespace CrashTriage

/-- A way to compare two sequences of frames. -/
inductive Metric where
  /-- The number of edits, in relation to the longer sequence. -/
  | edits
  /-- The same, where swapping two neighbours is one edit. -/
  | editsAndSwaps
  /-- One minus the share of common distinct frames. -/
  | jaccard
  /-- The Jaro–Winkler similarity. -/
  | jaroWinkler
deriving DecidableEq, Repr

namespace Metric

/-- The name of a metric. -/
def text : Metric → String
  | edits => "levenshtein"
  | editsAndSwaps => "damerau-levenshtein"
  | jaccard => "jaccard"
  | jaroWinkler => "jaro-winkler"

/-- Every metric. -/
def all : List Metric :=
  [edits, editsAndSwaps, jaccard, jaroWinkler]

/-- The metric of a name. -/
def ofText? (name : String) : Option Metric :=
  all.find? (·.text == name)

/-- No metric has this name. -/
structure UnknownName where
  /-- The name. -/
  name : String
deriving DecidableEq, Repr

/-- The message for an unknown name. -/
def UnknownName.message (e : UnknownName) : String :=
  "unknown distance type: " ++ e.name

/-- The metric of a name, or the name as the cause of the failure. -/
def ofText (name : String) : Except UnknownName Metric :=
  match ofText? name with
  | some metric => .ok metric
  | none => .error { name }

/-- The name of the metric. -/
def toDocument (m : Metric) : Document :=
  .string m.text

/-- Reads a metric. -/
def ofDocument? (d : Document) : Option Metric :=
  d.bareVariant?.bind ofText?

/-- Compares two sequences, whose elements are the same when `same` says so. -/
def compare {α : Type} (same : α → α → Bool) (a b : List α) : Metric → Float32
  | edits => Edit.distance same false a b
  | editsAndSwaps => Edit.distance same true a b
  | jaccard => Jaccard.distance same a b
  | jaroWinkler => JaroWinkler.similarity same a b

end Metric

end CrashTriage
