import CrashTriage.Thread.Document

/-!
# Crash reports

A `Report` holds the threads of a crashed process and which of them crashed, if that is known. A
runtime without threads reports a single one, which then is the one that crashed.
-/

namespace CrashTriage

/-- The threads of one crash. -/
structure Report where
  /-- The threads, in the order in which they were reported. -/
  threads : List Thread := []
  /-- The position of the thread that crashed. A persisted report may hold a position that has no
  thread. -/
  crashIndex : Option UInt64 := none
deriving DecidableEq, Repr

namespace Report

/-- The report of a runtime without threads. -/
def single (t : Thread) : Report where
  threads := [t]
  crashIndex := some 0

/-- The report with one more thread. -/
def push (r : Report) (t : Thread) : Report :=
  { r with threads := r.threads ++ [t] }

/-- Why a thread cannot be the one that crashed: the report does not have it. -/
structure SelectionError where
  /-- The position asked for. -/
  index : UInt64
  /-- The number of threads. -/
  threadCount : Nat
deriving DecidableEq, Repr

/-- The message for a refused selection. -/
def SelectionError.message (e : SelectionError) : String :=
  "crash thread " ++ toString e.index.toNat ++ " out of range, stacktrace has "
    ++ toString e.threadCount ++ " threads"

/-- The report with the thread at `index` as the one that crashed. -/
def selectCrash (r : Report) (index : UInt64) : Except SelectionError Report :=
  if index.toNat < r.threads.length then .ok { r with crashIndex := some index }
  else .error { index, threadCount := r.threads.length }

/-- The thread that crashed. In a report of one thread that is this one, unless another position
was set. -/
def crashThread? (r : Report) : Option Thread :=
  match r.crashIndex with
  | some index => r.threads[index.toNat]?
  | none =>
    match r.threads with
    | [t] => some t
    | _ => none

/-! ### Persisted form -/

/-- The threads, and the position of the one that crashed where it is known. -/
def toDocument (r : Report) : Document :=
  .record
    (Document.field "threads" (.list (r.threads.map Thread.toDocument))
      ++ Document.optionalField "crash_thread" (r.crashIndex.map .ofWord64))

/-- Reads a report. The position is read before the threads, and the first thread that is refused
decides the error. -/
def ofDocument (d : Document) : Except ReadError Report := do
  let fields ← ReadError.ofForm d.record?
  let crashIndex ← ReadError.ofForm (Document.nullable fields "crash_thread" Document.word64?)
  let items ← ReadError.ofForm (Document.required fields "threads" (Document.list? some))
  let threads ← items.mapM Thread.ofDocument
  return { threads, crashIndex }

end Report

end CrashTriage
