import CrashTriage.Metric.Basic
import CrashTriage.Pairing.Gap

/-!
# The distance of two threads

Threads of one kind are compared by a metric on their frames. Threads of different kinds have
nothing in common and are at distance one whatever the metric.

Debuggers leave functions of stripped code unresolved, so two of their threads that are not both
well resolved are paired before they are compared (`Metric.pairedDistance`).
-/

namespace CrashTriage

namespace Metric

/-- Compares two sequences of frames. -/
def ofFrames (m : Metric) (a b : List Frame) : Float32 :=
  m.compare Frame.sameSite a b

/-- Compares two threads as they are. -/
def distance (m : Metric) (a b : Thread) : Float32 :=
  if a.kind = b.kind then m.ofFrames a.frames b.frames else 1

/-- Whether two threads of one kind are worth pairing: threads of a debugger, unless all their
frames are well resolved. -/
def needsPairing (a b : Thread) : Bool :=
  a.kind == .debugger && !(a.isSound && b.isSound)

/-- Compares two threads, after pairing their unresolved frames where that is worth it. -/
def pairedDistance (m : Metric) (a b : Thread) : Float32 :=
  if a.kind = b.kind ∧ needsPairing a b then
    let paired := Pairing.pair a b
    m.distance paired.1 paired.2
  else m.distance a b

end Metric

end CrashTriage
