import CrashTriage.Digest.Sha256
import CrashTriage.Distance
import CrashTriage.Grid.Cell

/-!
# Populations

The threads that are compared with each other form a population: a sequence of threads of one kind.
Work on a population can be spread over several places, and a checksum of the population tells
whether two of them worked on the same one. **The checksum sees the frame counts of the threads, in
their order, and nothing else.**
-/

namespace CrashTriage

namespace Population

/-- Succeeds if there are as many threads as expected. -/
def checkSize (threads : List Thread) (expected : Nat) : Except ComparisonError Unit :=
  if threads.length = expected then .ok ()
  else .error (.populationSize expected threads.length)

/-- Succeeds if all threads are of one kind; otherwise the first one of another kind than the
first thread is the culprit. -/
def checkKinds : List Thread → Except ComparisonError Unit
  | [] => .ok ()
  | t :: ts =>
    match ts.find? (·.kind ≠ t.kind) with
    | some other => .error (.kindMismatch t.kind other.kind)
    | none => .ok ()

/-- The distance of the two threads of a cell. A cell without threads has the distance zero. -/
def distance (metric : Metric) (threads : List Thread) (c : Cell) : Float32 :=
  match threads[c.row]?, threads[c.column]? with
  | some a, some b => metric.pairedDistance a b
  | _, _ => 0

/-! ### The checksum -/

/-- What the checksum is taken of: the frame count of each thread, in eight bytes. -/
def checksumBytes (threads : List Thread) : List UInt8 :=
  threads.flatMap fun t => Sha256.littleEndian 8 t.frames.length

/-- The first word of the digest of the frame counts. -/
def checksum (threads : List Thread) : UInt32 :=
  (Sha256.digest (checksumBytes threads)).a

end Population

end CrashTriage
