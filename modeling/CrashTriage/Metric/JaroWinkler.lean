/-!
# Counting matches

The Jaro–Winkler similarity of two sequences rises with the number of frames that match at about
the same place, falls with those that match elsewhere, and is boosted by a common beginning.

Two positions match when their frames are the same and not further apart than a window of half the
longer length. Each frame of `a` takes the first frame of `b` that it matches. **A frame of `b` may
be taken more than once**, so repeated frames can make the result depend on which sequence comes
first, and can push the score past one, where it is cut off.

Everything about the sequences is in four counts (`JaroWinkler.Counts`). The score is one formula
over any numbers (`Counts.score`), evaluated in single precision for the result.
-/

namespace CrashTriage

namespace JaroWinkler

/-- The longest common beginning that counts. -/
def beginningCap : Nat := 4

/-- How far apart two positions may be and still match, for the lengths of the sequences. -/
def window (left right : Nat) : Nat :=
  max left right / 2 - 1

section Sequences

variable {α : Type}

/-- The position in `b` that a frame at position `i` takes: the first inside the window that has
the same frame. -/
def partner? (same : α → α → Bool) (window : Nat) (b : List α) (x : α) (i : Nat) : Option Nat :=
  (b.zipIdx.find? fun (y, j) => i ≤ j + window && j ≤ i + window && same x y).map (·.2)

/-- The pairs of positions that match, in the order of `a`. -/
def pairs (same : α → α → Bool) (a b : List α) : List (Nat × Nat) :=
  a.zipIdx.filterMap fun (x, i) =>
    (partner? same (window a.length b.length) b x i).map fun j => (i, j)

/-- How many frames the two sequences have in common at their beginning. -/
def commonBeginning (same : α → α → Bool) : List α → List α → Nat
  | x :: xs, y :: ys => if same x y then commonBeginning same xs ys + 1 else 0
  | _, _ => 0

end Sequences

/-- What the score depends on. -/
structure Counts where
  /-- The length of the first sequence. -/
  left : Nat
  /-- The length of the second sequence. -/
  right : Nat
  /-- How many frames of the first sequence match. -/
  matched : Nat
  /-- How many of them match at another position than their own. -/
  displaced : Nat
  /-- The length of the common beginning, as far as it counts. -/
  shared : Nat
deriving DecidableEq, Repr

/-- The counts for two sequences. -/
def counts {α : Type} (same : α → α → Bool) (a b : List α) : Counts :=
  let pairs := pairs same a b
  { left := a.length
    right := b.length
    matched := pairs.length
    displaced := pairs.countP fun (i, j) => i ≠ j
    shared := min (commonBeginning same a b) beginningCap }

namespace Counts

section Score

variable {ρ : Type} [Add ρ] [Sub ρ] [Mul ρ] [Div ρ]

/-- The score before the boost: the mean of the shares of matched frames on either side and of
the share of matches in place, where a displaced match counts half. -/
def base (ofNat : Nat → ρ) (c : Counts) : ρ :=
  let m := ofNat c.matched
  let t := ofNat c.displaced / ofNat 2
  (m / ofNat c.left + m / ofNat c.right + (m - t) / m) / ofNat 3

/-- The score: the rest up to one is reduced by a fifth for each frame of the common beginning. -/
def score (ofNat : Nat → ρ) (fifth : ρ) (c : Counts) : ρ :=
  let j := c.base ofNat
  j + ofNat c.shared * fifth * (ofNat 1 - j)

end Score

end Counts

/-- The similarity: one for two empty sequences, zero when nothing matches, and otherwise the
score, cut off at one. -/
def similarity {α : Type} (same : α → α → Bool) (a b : List α) : Float32 :=
  let c := counts same a b
  if a.isEmpty && b.isEmpty then 1
  else if c.matched = 0 then 0
  else
    let s := c.score Nat.toFloat32 0.2
    if 1 < s then 1 else s

end JaroWinkler

end CrashTriage
