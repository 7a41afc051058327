import CrashTriage.Condense.Alias
import CrashTriage.Condense.Catalogue
import CrashTriage.Thread.Basic

/-!
# Condensing a thread

Before threads are compared, the frames that say nothing about the bug may be dropped. The steps
are, in this order:

* the library frames of the kind (`Condense.dropLibraryFrames`): for a debugger, the path on which
  the process ended, then – once aliases are resolved – the machinery that reported the failure,
  and then the calls that start and dispatch; for a kernel oops, the generic calls of the core
  kernel;
* a null call at either end (`Condense.trimNullCalls`): an unresolved frame at address zero on top
  comes from a call through a null pointer, and at the bottom from the end of the unwinding;
* direct recursion (`Condense.foldRecursion`), so that its depth makes no difference.
-/

namespace CrashTriage

namespace Condense

section Sequences

variable {α : Type}

/-- What comes behind the last element with a property; the whole list if there is none. -/
def afterLast (p : α → Bool) (l : List α) : List α :=
  (l.reverse.takeWhile (!p ·)).reverse

/-- The list without its first element, if that one has a property. -/
def dropFirstIf (p : α → Bool) : List α → List α
  | [] => []
  | x :: xs => if p x then xs else x :: xs

/-- The list without its last element, if that one has a property. -/
def dropLastIf (p : α → Bool) (l : List α) : List α :=
  if l.getLast?.any p then l.dropLast else l

/-- The elements behind `kept`, without those that are the same as the last one kept before
them. -/
def foldAfter (same : α → α → Bool) (kept : α) : List α → List α
  | [] => []
  | x :: xs => if same x kept then foldAfter same kept xs else x :: foldAfter same x xs

/-- The list without those elements that are the same as the last one kept before them. -/
def foldRuns (same : α → α → Bool) : List α → List α
  | [] => []
  | x :: xs => x :: foldAfter same x xs

end Sequences

/-! ### Library frames -/

/-- The frames behind the last call that ends the process, by the names as they were printed. -/
def cutExitPath (frames : List Frame) : List Frame :=
  afterLast (covered exitCalls) frames

/-- The frames behind the last call that reports a failure. -/
def cutReportingPath (frames : List Frame) : List Frame :=
  afterLast (covered reportingCalls) frames

/-- Whether a frame is a call that starts or dispatches. -/
def isDispatch (f : Frame) : Bool :=
  covered startupCalls f || covered glibCalls f

/-- The frames of a debugger's thread without those of libraries, by their public names. -/
def dropDebuggerLibraryFrames (frames : List Frame) : List Frame :=
  (cutReportingPath ((cutExitPath frames).map resolveAlias)).filter (!isDispatch ·)

/-- The frames of a kernel oops without the generic calls of the core kernel. -/
def dropKernelFrames (frames : List Frame) : List Frame :=
  frames.filter (!isGenericKernelCall ·)

/-- The frames of a thread of some kind without those of libraries. -/
def dropLibraryFrames : Frame.Kind → List Frame → List Frame
  | .debugger, frames => dropDebuggerLibraryFrames frames
  | .oops, frames => dropKernelFrames frames
  | _, frames => frames

/-! ### Null calls and recursion -/

/-- Whether a frame is a call to address zero of which nothing else is known. -/
def isNullCall (f : Frame) : Bool :=
  f.isUnresolved && f.address? == some 0

/-- The frames without a null call on top, and then without one at the bottom. -/
def trimNullCalls (frames : List Frame) : List Frame :=
  dropLastIf isNullCall (dropFirstIf isNullCall frames)

/-- The frames without repetitions of the call that was kept before them. -/
def foldRecursion (frames : List Frame) : List Frame :=
  foldRuns Frame.sameSite frames

/-- All steps, for the frames of a thread of some kind. -/
def condenseFrames (kind : Frame.Kind) (frames : List Frame) : List Frame :=
  foldRecursion (trimNullCalls (dropLibraryFrames kind frames))

end Condense

namespace Thread

/-- The thread without the frames that say nothing about the bug. -/
def condense (t : Thread) : Thread :=
  { t with frames := Condense.condenseFrames t.kind t.frames }

end Thread

end CrashTriage
