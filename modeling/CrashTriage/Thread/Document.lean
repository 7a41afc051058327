import CrashTriage.Frame.Document
import CrashTriage.Thread.Basic

/-!
# Persisted threads

A thread is a record of its number, kind and frames. A reader takes a missing number as zero and
missing frames as none, insists on the kind, and refuses a thread that mixes kinds.
-/

namespace CrashTriage

namespace Thread

open Document

/-- The number, the kind and the frames. -/
def toDocument (t : Thread) : Document :=
  .record
    (field "id" (.ofWord32 t.id)
      ++ field "kind" t.kind.toDocument
      ++ field "frames" (.list (t.frames.map Frame.toDocument)))

/-- Reads the parts of a thread. -/
def partsOf? (d : Document) : Option (UInt32 × Frame.Kind × List Frame) := do
  let fields ← d.record?
  let id ← orElse fields "id" 0 word32?
  let kind ← required fields "kind" Frame.Kind.ofDocument?
  let frames ← orElse fields "frames" [] (list? Frame.ofDocument?)
  return (id, kind, frames)

/-- Reads a thread. Frames of another kind are reported only when all parts have the right
form. -/
def ofDocument (d : Document) : Except ReadError Thread := do
  let (id, kind, frames) ← ReadError.ofForm (partsOf? d)
  ReadError.ofBuild (ofFrames id kind frames)

end Thread

end CrashTriage
