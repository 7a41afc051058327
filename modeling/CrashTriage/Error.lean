import CrashTriage.Frame.Kind
import CrashTriage.Grid.Cell

/-!
# What can be wrong with a comparison

The causes for which threads, populations and distance matrices are refused, each with the values
that a reader of the message needs.
-/

namespace CrashTriage

/-- Why threads cannot be built, compared or stored as demanded. -/
inductive ComparisonError where
  /-- A frame or a thread of another kind stands among those of one kind. -/
  | kindMismatch (expected found : Frame.Kind)
  /-- No matrix has this extent. -/
  | invalidShape (shape : Shape)
  /-- The work was to be split among no shards. -/
  | noShards
  /-- The population has another size than the matrix it is for. -/
  | populationSize (expected found : Nat)
  /-- A cell, or a range of cells from there on, lies outside of the matrix. -/
  | outOfRange (cell : Cell) (shape : Shape)
  /-- The storage has another size than the matrix it is for. -/
  | storageSize (expected found : Nat)
deriving DecidableEq, Repr

namespace ComparisonError

/-- The message for a cause. -/
def message : ComparisonError → String
  | kindMismatch expected found =>
    "frame kind mismatch: expected " ++ expected.text ++ ", found " ++ found.text
  | invalidShape shape => "invalid distance matrix dimensions " ++ shape.text
  | noShards => "shard count must be positive"
  | populationSize expected found =>
    "expected " ++ toString expected ++ " threads, got " ++ toString found
  | outOfRange cell shape =>
    "cell " ++ cell.text ++ " is outside of the " ++ shape.text ++ " distance matrix"
  | storageSize expected found =>
    "distance matrix storage holds " ++ toString found ++ " values, expected "
      ++ toString expected

end ComparisonError

/-- Why a persisted value is refused. -/
inductive ReadError where
  /-- The document does not have the form of such a value. -/
  | malformed
  /-- The form is right, and the value is one that cannot be built. -/
  | rejected (cause : ComparisonError)
deriving DecidableEq, Repr

namespace ReadError

/-- What a reader of forms has found, with a refusal for its cause. -/
def ofForm {α : Type} : Option α → Except ReadError α
  | some value => .ok value
  | none => .error .malformed

/-- What a builder of values has built, with a refusal for its cause. -/
def ofBuild {α : Type} : Except ComparisonError α → Except ReadError α
  | .ok value => .ok value
  | .error cause => .error (.rejected cause)

end ReadError

end CrashTriage
