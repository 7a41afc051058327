/-!
# Counting edits

How many edits lead from one sequence of frames to another? Deleting, inserting and replacing a
frame cost one edit each, and so does – if allowed – swapping two neighbours. When two frames are
the same is decided by a test `same`, which need be neither reflexive nor transitive.

The counts for all beginnings of both sequences are the entries of a table: **entry `(i, j)` counts
the edits between the first `i` frames of the one and the first `j` frames of the other**. An entry
follows from the ones above it and left of it, and – where swaps are allowed – from one that is two
rows up. So three rows are kept (`Edit.Rows`), and they are handed round: once a row is filled, the
oldest one is written over to become the next.

## Main definitions

* `Edit.Rows`: the rows that are kept; `Edit.Rows.fill` and `Edit.Rows.rotate` fill the current one
  and hand them round.
* `Edit.count`: the number of edits.
* `Edit.distance`: the number of edits in relation to the longer sequence.
-/

namespace CrashTriage

namespace Edit

variable {α : Type}

/-- The cost of putting `x` in the place of `y`. -/
def replaceCost (same : α → α → Bool) (x y : α) : Nat :=
  if same x y then 0 else 1

/-- Whether a frame `x` and the one in front of it are `y` and the one in front of that, crosswise.
A frame at the beginning has none in front of it. -/
def crossed (same : α → α → Bool) (x'? : Option α) (x : α) (y'? : Option α) (y : α) : Bool :=
  match x'?, y'? with
  | some x', some y' => same x y' && same x' y
  | _, _ => false

/-- The rows of the table that are kept while it is filled. -/
structure Rows where
  /-- The row above the last one. -/
  before : Array Nat
  /-- The last row that was filled. -/
  last : Array Nat
  /-- The row that is being filled. Behind what is filled it still holds the entries of the row
  that it was before. -/
  current : Array Nat

namespace Rows

/-- The rows before any frame is looked at: the beginnings of a sequence of `width` frames are
inserted one by one. -/
def start (width : Nat) : Rows where
  before := Array.replicate (width + 1) 0
  last := Array.range (width + 1)
  current := Array.replicate (width + 1) 0

section Filling

variable (same : α → α → Bool) (swaps : Bool)

/-- The entry of the current row in column `j + 1`, from the entries around it. It is for the frame
`x` against `y`, the frames in front of which are `x'?` and `y'?`. -/
def entry (x'? : Option α) (x : α) (j : Nat) (y'? : Option α) (y : α) (r : Rows) : Nat :=
  let single :=
    min (min (r.last.getD (j + 1) 0 + 1) (r.current.getD j 0 + 1))
      (r.last.getD j 0 + replaceCost same x y)
  if swaps && crossed same x'? x y'? y then min single (r.before.getD (j - 1) 0 + 1) else single

/-- The rows after the columns behind column `j` of the current row are filled, one for each frame
of a list. The frame in front of these is `y'?`. -/
def fill (x'? : Option α) (x : α) : (j : Nat) → (y'? : Option α) → List α → Rows → Rows
  | _, _, [], r => r
  | j, y'?, y :: ys, r =>
    fill x'? x (j + 1) (some y) ys
      { r with current := r.current.setIfInBounds (j + 1) (r.entry same swaps x'? x j y'? y) }

/-- The rows after the current one is finished: it becomes the last one, and what was above that is
free to be written over. -/
def rotate (r : Rows) : Rows where
  before := r.last
  last := r.current
  current := r.before

/-- The rows after a list of frames, of which the first one has `i` frames in front of it, `x'?`
being the nearest. The other sequence is `b`. -/
def run (b : List α) : (i : Nat) → (x'? : Option α) → List α → Rows → Rows
  | _, _, [], r => r
  | i, x'?, x :: xs, r =>
    -- deleting all frames leads to the empty beginning
    let r := { r with current := r.current.setIfInBounds 0 (i + 1) }
    run b (i + 1) (some x) xs (r.fill same swaps x'? x 0 none b).rotate

end Filling

end Rows

/-- The least number of edits that lead from `a` to `b`, swaps of neighbours among them if
`swaps` is set. -/
def count (same : α → α → Bool) (swaps : Bool) (a b : List α) : Nat :=
  ((Rows.start b.length).run same swaps b 0 none a).last.getD b.length 0

/-- The number of edits in relation to the longer sequence; two empty sequences are at distance
zero. -/
def distance (same : α → α → Bool) (swaps : Bool) (a b : List α) : Float32 :=
  let longest := max a.length b.length
  if longest = 0 then 0
  else (count same swaps a b).toFloat32 / longest.toFloat32

end Edit

end CrashTriage
