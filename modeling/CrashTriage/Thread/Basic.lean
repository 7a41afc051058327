import CrashTriage.Error
import CrashTriage.Frame.Site
import CrashTriage.Frame.Text

/-!
# Threads

A `Thread` is the call stack of one thread of a crashed process: a sequence of frames, innermost
call first, with the number of the thread and the kind of its frames.

**All frames of a thread are of its kind** (`Thread.IsUniform`). The functions that build a thread
from frames refuse any other frame with the kinds that clash, and those that edit a thread keep the
property; the metrics rely on it, since frames of different kinds cannot be compared.
-/

namespace CrashTriage

/-- The call stack of a thread, innermost call first. -/
structure Thread where
  /-- The number of the thread. It takes no part in comparisons. -/
  id : UInt32
  /-- The kind of all frames. -/
  kind : Frame.Kind
  /-- The frames, innermost first. -/
  frames : List Frame
deriving DecidableEq, Repr

namespace Thread

/-- Every frame is of the kind of the thread. -/
def IsUniform (t : Thread) : Prop :=
  ∀ f ∈ t.frames, f.kind = t.kind

instance (t : Thread) : Decidable t.IsUniform :=
  inferInstanceAs (Decidable (∀ f ∈ t.frames, f.kind = t.kind))

/-! ### Building a thread -/

/-- A thread without frames. -/
def empty (id : UInt32) (kind : Frame.Kind) : Thread where
  id := id
  kind := kind
  frames := []

/-- A thread of the given frames, unless one of them is of another kind. -/
def ofFrames (id : UInt32) (kind : Frame.Kind) (frames : List Frame) :
    Except ComparisonError Thread :=
  match frames.find? (·.kind ≠ kind) with
  | some f => .error (.kindMismatch kind f.kind)
  | none => .ok { id, kind, frames }

/-- The thread with one more frame at the outer end, unless the frame is of another kind. -/
def push (t : Thread) (f : Frame) : Except ComparisonError Thread :=
  if f.kind = t.kind then .ok { t with frames := t.frames ++ [f] }
  else .error (.kindMismatch t.kind f.kind)

/-! ### Taking frames away -/

/-- The frame at a position and the thread without it. -/
def removeAt? (t : Thread) (index : Nat) : Option (Frame × Thread) :=
  t.frames[index]?.map fun f => (f, { t with frames := t.frames.eraseIdx index })

/-- The thread from a frame on outwards, without the calls above it. -/
def dropAbove? (t : Thread) (index : Nat) : Option Thread :=
  if index < t.frames.length then some { t with frames := t.frames.drop index } else none

/-- The innermost `count` frames. -/
def keepInner (t : Thread) (count : Nat) : Thread :=
  { t with frames := t.frames.take count }

/-! ### How well a thread is resolved -/

/-- How many frames are well resolved. -/
def soundCount (t : Thread) : Nat :=
  t.frames.countP Frame.isSound

/-- The share of well resolved frames; a thread without frames lacks none. -/
def quality (t : Thread) : Float32 :=
  if t.frames.isEmpty then 1
  else t.soundCount.toFloat32 / t.frames.length.toFloat32

/-- Whether all frames are well resolved. -/
def isSound (t : Thread) : Bool :=
  t.soundCount == t.frames.length

/-! ### Text -/

/-- The symbols of the frames as they are printed. -/
def symbolTexts (t : Thread) : List String :=
  t.frames.map (·.symbol.text)

/-- A line that names the thread, and a line for each frame. -/
def text (t : Thread) : String :=
  "Thread " ++ toString t.id.toNat ++ " (" ++ t.kind.text ++ ")\n"
    ++ String.join (t.frames.map (·.text ++ "\n"))

end Thread

end CrashTriage
