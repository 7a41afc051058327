/-!
# Anchors

Two call stacks are aligned on the frames that they share. An **anchor** is a pair of positions
with the same resolved frame, and the anchors are chosen greedily along the first sequence: a
resolved frame takes the nearest same frame of the second sequence behind the anchor before it. If
there is none, it may share the frame of that anchor, as when a recursion is one call deeper on the
left. So the positions on the left rise, and those on the right never fall.
-/

namespace CrashTriage

namespace Pairing

variable {α : Type}

/-- Positions of two sequences with the same frame. -/
structure Anchor where
  /-- The position in the first sequence. -/
  left : Nat
  /-- The position in the second sequence. -/
  right : Nat
deriving DecidableEq, Repr

/-- The first position of `b` from `start` on whose frame is resolved and the same as `x`. -/
def nearest? (same : α → α → Bool) (resolved : α → Bool) (b : List α) (x : α) (start : Nat) :
    Option Nat :=
  ((b.drop start).findIdx? fun y => resolved y && same x y).map (start + ·)

/-- The position of the anchor before, if there is one and its frame is the same as `x`. -/
def shared? (same : α → α → Bool) (b : List α) (x : α) (last : Option Nat) : Option Nat :=
  last.filter fun j => b[j]?.any (same x)

/-- The anchors of the frames from position `i` on, when the anchor before them is at position
`last` of `b`. -/
def anchorsFrom (same : α → α → Bool) (resolved : α → Bool) (b : List α) :
    (last : Option Nat) → (i : Nat) → List α → List Anchor
  | _, _, [] => []
  | last, i, x :: xs =>
    let found :=
      if resolved x then
        nearest? same resolved b x (last.elim 0 (· + 1)) <|> shared? same b x last
      else none
    match found with
    | some j => { left := i, right := j } :: anchorsFrom same resolved b (some j) (i + 1) xs
    | none => anchorsFrom same resolved b last (i + 1) xs

/-- The anchors of two sequences, from the innermost on. -/
def anchors (same : α → α → Bool) (resolved : α → Bool) (a b : List α) : List Anchor :=
  anchorsFrom same resolved b none 0 a

end Pairing

end CrashTriage
