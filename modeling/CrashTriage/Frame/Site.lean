import CrashTriage.Frame.Basic

/-!
# When two frames are the same site

Comparing threads rests on one question: do two frames denote the same place in the code?
`Frame.sameSite` answers it, kind by kind, on what identifies the place and not on what varies
between two runs.

The relation is a tolerance and not an equivalence. **An unresolved frame is the same site as
none**, itself included: nothing tells where it is. **A qualifier that is missing on one side does
not count against the frames**: a debugger that did not print the library of a frame has not
denied that it is the same. So two frames of different libraries may both be the same site as a
third one without a library.
-/

namespace CrashTriage

namespace Frame

/-- Whether nothing tells where the frame is. A frame of a core dump may be located by its symbol,
its build or its fingerprint; any other frame only by its symbol. -/
def isUnresolved (f : Frame) : Bool :=
  match f.details with
  | .core d => f.symbol.isUnknown && d.buildId.isNone && d.fingerprint.isNone
  | _ => f.symbol.isUnknown

/-- Whether something tells where the frame is. -/
def isResolved (f : Frame) : Bool :=
  !f.isUnresolved

/-- Whether two qualifiers do not contradict each other: both given and equal, or one missing. -/
def compatible : Option String → Option String → Bool
  | some a, some b => a == b
  | _, _ => true

/-- Whether two values are both given, and equal. -/
def bothGiven : Option String → Option String → Bool
  | some a, some b => a == b
  | _, _ => false

/-- Whether two frames of core dumps are at the same place by their location alone: at the same
offset in the same build of a module, or – since the code may be found in another build as well –
with the same fingerprint. -/
def CoreDetails.sameLocation (a b : CoreDetails) : Bool :=
  (bothGiven a.buildId b.buildId && a.buildIdOffset == b.buildIdOffset)
    || bothGiven a.fingerprint b.fingerprint

/-- Whether two frames denote the same place in the code. Frames of different kinds never do. -/
def sameSite (f g : Frame) : Bool :=
  match f.details, g.details with
  | .core a, .core b =>
    -- the location decides only where a symbol is missing
    if f.symbol.isUnknown || g.symbol.isUnknown then a.sameLocation b
    else f.symbol.agrees g.symbol
  | .python a, .python b =>
    f.symbol.agrees g.symbol && a.fileName == b.fileName
      && a.specialFunction == b.specialFunction && a.specialFile == b.specialFile
  | .oops a, .oops b =>
    f.symbol.agrees g.symbol && compatible a.moduleName b.moduleName
  | .java _, .java _ => f.symbol.agrees g.symbol
  | .debugger a, .debugger b =>
    f.symbol.agrees g.symbol && compatible a.library b.library
  | .ruby a, .ruby b =>
    f.symbol.agrees g.symbol && a.fileName == b.fileName
      && a.specialFunction == b.specialFunction
  | .script a, .script b =>
    a.line == b.line && f.symbol.agrees g.symbol && a.fileName == b.fileName
  | _, _ => false

/-- Whether the frame counts as well resolved when the quality of a thread is rated. A debugger's
frame needs both a name and a source file, unless it is the trampoline of a signal handler; any
other frame only needs to be resolved. -/
def isSound (f : Frame) : Bool :=
  match f.details with
  | .debugger d =>
    d.signalHandler || (f.symbol.isNamed && d.sourceFile.any (!·.isEmpty))
  | _ => f.isResolved

end Frame

end CrashTriage
