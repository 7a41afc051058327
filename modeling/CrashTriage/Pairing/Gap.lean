import CrashTriage.Pairing.Anchor
import CrashTriage.Thread.Basic

/-!
# Pairing unresolved frames

Two crashes in the same stripped code show unresolved frames at the same place. Between two
anchors, before the first and behind the last, lies a **gap** on either side. If the two sides are
equally long and nothing in them is resolved, their frames are taken to be the same, one by one:
each pair of them is given a label that no other pair has (`Pairing.pair`).

A gap with a resolved frame, or with sides of different lengths, is left alone; and without any
anchor there is no telling what is at the same place, so nothing is paired.
-/

namespace CrashTriage

namespace Pairing

/-- A stretch of two sequences between anchors: on either side, the position where it starts and
the one behind its end. -/
structure Gap where
  /-- The start in the first sequence. -/
  leftStart : Nat
  /-- The position behind the end in the first sequence. -/
  leftStop : Nat
  /-- The start in the second sequence. -/
  rightStart : Nat
  /-- The position behind the end in the second sequence. An anchor that shares its frame leaves
  no room, and then this may lie before the start. -/
  rightStop : Nat
deriving DecidableEq, Repr

namespace Gap

/-- The length of the first side. -/
def leftLength (g : Gap) : Nat :=
  g.leftStop - g.leftStart

/-- The length of the second side. -/
def rightLength (g : Gap) : Nat :=
  g.rightStop - g.rightStart

/-- The pairs of positions of a gap with equal sides. -/
def positions (g : Gap) : List (Nat × Nat) :=
  (List.range' g.leftStart g.leftLength).zip (List.range' g.rightStart g.rightLength)

end Gap

/-- The gaps from a start on: one in front of each anchor and one in front of the ends. -/
def gapsFrom (ends : Anchor) : (leftStart rightStart : Nat) → List Anchor → List Gap
  | i, j, [] => [⟨i, ends.left, j, ends.right⟩]
  | i, j, c :: cs => ⟨i, c.left, j, c.right⟩ :: gapsFrom ends (c.left + 1) (c.right + 1) cs

/-- All gaps of two sequences of the given lengths. -/
def gaps (ends : Anchor) (anchors : List Anchor) : List Gap :=
  gapsFrom ends 0 0 anchors

section Sequences

variable {α : Type}

/-- Whether no frame of a stretch is resolved. -/
def allUnresolved (resolved : α → Bool) (l : List α) (start length : Nat) : Bool :=
  ((l.drop start).take length).all (!resolved ·)

/-- Whether the two sides of a gap can be paired: they are equally long, not empty, and nothing in
them is resolved. -/
def isBlank (resolved : α → Bool) (a b : List α) (g : Gap) : Bool :=
  g.leftLength == g.rightLength && g.leftLength != 0
    && allUnresolved resolved a g.leftStart g.leftLength
    && allUnresolved resolved b g.rightStart g.rightLength

/-- The positions to be paired, from the innermost on. -/
def pairedPositions (same : α → α → Bool) (resolved : α → Bool) (a b : List α) :
    List (Nat × Nat) :=
  match anchors same resolved a b with
  | [] => []
  | c :: cs =>
    ((gaps { left := a.length, right := b.length } (c :: cs)).filter
      (isBlank resolved a b)).flatMap Gap.positions

end Sequences

/-- The frames, where the one at the `k`-th of the positions has the label `k`. -/
def labelAt (positions : List Nat) (frames : List Frame) : List Frame :=
  frames.mapIdx fun i f =>
    match positions.idxOf? i with
    | some k => f.relabel (.paired (UInt32.ofNat k))
    | none => f

/-- Both threads, with a common label for each two unresolved frames at the same place. -/
def pair (a b : Thread) : Thread × Thread :=
  let positions := pairedPositions Frame.sameSite Frame.isResolved a.frames b.frames
  ({ a with frames := labelAt (positions.map (·.1)) a.frames },
    { b with frames := labelAt (positions.map (·.2)) b.frames })

end Pairing

end CrashTriage
