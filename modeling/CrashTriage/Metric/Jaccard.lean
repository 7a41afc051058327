/-!
# Comparing the sets of frames

The Jaccard distance of two sequences is one minus the share of frames that both have. Each
sequence is taken as a set: **a frame that comes again later counts only there**. The sets are
found by scanning, with the test `same` for when two frames are the same, since a test that is not
transitive has no classes to count.

## Main definitions

* `Jaccard.distinct`: the frames of a sequence that do not come again.
* `Jaccard.common`, `Jaccard.union`: the sizes of the intersection and of the union.
* `Jaccard.distance`: the distance.
-/

namespace CrashTriage

namespace Jaccard

variable {α : Type}

/-- Whether a frame of the sequence is the same as `x`. -/
def occurs (same : α → α → Bool) (l : List α) (x : α) : Bool :=
  l.any fun y => same y x

/-- The frames that do not come again later in the sequence. -/
def distinct (same : α → α → Bool) : List α → List α
  | [] => []
  | x :: xs => if occurs same xs x then distinct same xs else x :: distinct same xs

/-- How many distinct frames of `a` occur in `b`. -/
def common (same : α → α → Bool) (a b : List α) : Nat :=
  (distinct same a).countP (occurs same b)

/-- How many distinct frames the two sequences have together. -/
def union (same : α → α → Bool) (a b : List α) : Nat :=
  (distinct same a).length + (distinct same b).length - common same a b

/-- One minus the share of common frames, and never below zero; two empty sequences are at
distance zero. -/
def distance (same : α → α → Bool) (a b : List α) : Float32 :=
  if union same a b = 0 then 0
  else
    let d := 1 - (common same a b).toFloat32 / (union same a b).toFloat32
    if d < 0 then 0 else d

end Jaccard

end CrashTriage
