import CrashTriage.Condense.Basic
import CrashTriage.Pairing.Gap
import CrashTriage.Thread.Document

/-!
# What becomes of a thread

A thread that was built or read is edited afterwards: frames are added or taken away, it is
condensed, and it is paired with other threads. Some of that may be refused, and then **the thread
remains as it was** (`Thread.edited`). The threads that can come of it, in any number of steps, are
those that are reached (`Thread.IsReached`).
-/

namespace CrashTriage

namespace Thread

/-- A demand to edit a thread. -/
inductive Edit where
  /-- One more frame at the outer end. -/
  | push (f : Frame)
  /-- The frame at a position is taken away. -/
  | removeAt (index : Nat)
  /-- The frames above a position are taken away. -/
  | dropAbove (index : Nat)
  /-- All frames but the innermost ones are taken away. -/
  | keepInner (count : Nat)
  /-- The thread is condensed. -/
  | condense
deriving DecidableEq, Repr

/-- The thread as demanded, unless the demand is refused. -/
def edit? (t : Thread) : Edit → Option Thread
  | .push f => (t.push f).toOption
  | .removeAt index => (t.removeAt? index).map (·.2)
  | .dropAbove index => t.dropAbove? index
  | .keepInner count => some (t.keepInner count)
  | .condense => some t.condense

/-- The thread after a demand. It is as before if the demand was refused. -/
def edited (t : Thread) (e : Edit) : Thread :=
  (t.edit? e).getD t

/-- **Threads that are reached**, from one that was created with a number and a kind, by demands to
edit it and by pairing it with other such threads, of whatever numbers and kinds these are. -/
inductive IsReached : UInt32 → Frame.Kind → Thread → Prop
  /-- A thread without frames. -/
  | empty (id : UInt32) (kind : Frame.Kind) : IsReached id kind (empty id kind)
  /-- A thread of given frames. -/
  | ofFrames {id : UInt32} {kind : Frame.Kind} {frames : List Frame} {t : Thread}
      (hok : ofFrames id kind frames = .ok t) : IsReached id kind t
  /-- A thread that was persisted with its number and its kind. -/
  | ofDocument {doc : Document} {id : UInt32} {kind : Frame.Kind} {frames : List Frame}
      {t : Thread} (hparts : partsOf? doc = some (id, kind, frames))
      (hok : ofDocument doc = .ok t) : IsReached id kind t
  /-- What becomes of a thread by a demand. -/
  | edited {id : UInt32} {kind : Frame.Kind} {t : Thread} (h : IsReached id kind t) (e : Edit) :
      IsReached id kind (t.edited e)
  /-- What becomes of a thread that is paired with another one. -/
  | pairFst {id id' : UInt32} {kind kind' : Frame.Kind} {t other : Thread}
      (h : IsReached id kind t) (hother : IsReached id' kind' other) :
      IsReached id kind (Pairing.pair t other).1
  /-- What becomes of a thread that another one is paired with. -/
  | pairSnd {id id' : UInt32} {kind kind' : Frame.Kind} {t other : Thread}
      (h : IsReached id kind t) (hother : IsReached id' kind' other) :
      IsReached id kind (Pairing.pair other t).2

end Thread

end CrashTriage
