import CrashTriage.Frame.Kind
import CrashTriage.Symbol

/-!
# Frames

A `Frame` is one entry of a call stack: the symbol of the function that executes, and what else
its source recorded. What else there is depends on the kind of the frame, so it is a value of
`Frame.Details`, with one alternative for each kind; what every kind has – the symbol – stands
beside it. Relabeling a frame replaces the symbol and keeps the details (`Frame.relabel`).
-/

namespace CrashTriage

namespace Frame

/-- What a core dump records of a frame. -/
structure CoreDetails where
  /-- The absolute address in the crashed process. -/
  address : UInt64 := 0
  /-- The identity of the build of the module that the address lies in. -/
  buildId : Option String := none
  /-- The offset of the address from the start of that module. -/
  buildIdOffset : UInt64 := 0
  /-- The file of the module. -/
  fileName : Option String := none
  /-- A digest of the machine code around the address, used when nothing else tells where the
  frame is. -/
  fingerprint : Option String := none
  /-- Whether the digest was hashed. -/
  fingerprintHashed : Bool := false
deriving DecidableEq, Repr

/-- What a Python traceback records of a frame. -/
structure PythonDetails where
  /-- Whether the file name is a placeholder such as `<stdin>` and not a path. -/
  specialFile : Bool := false
  /-- The source file. -/
  fileName : Option String := none
  /-- The source line. -/
  line : UInt32 := 0
  /-- Whether the symbol is a placeholder such as `<module>` and not a function. -/
  specialFunction : Bool := false
  /-- The text of the source line. -/
  lineContents : Option String := none
deriving DecidableEq, Repr

/-- What the call trace of a kernel oops records of a frame. -/
structure OopsDetails where
  /-- The address in the kernel. -/
  address : UInt64 := 0
  /-- Whether the kernel vouches for the frame. A frame that was only guessed from a stale stack
  slot is printed with a question mark. -/
  reliable : Bool := false
  /-- The offset of the address from the start of the function. -/
  functionOffset : UInt64 := 0
  /-- The length of the function. -/
  functionLength : UInt64 := 0
  /-- The kernel module. -/
  moduleName : Option String := none
  /-- The exception or interrupt stack that the frame was found on. -/
  specialStack : Option String := none
deriving DecidableEq, Repr

/-- What a Java stack trace records of a frame. An exception is recorded as a frame too: the
symbol is then its class. -/
structure JavaDetails where
  /-- The source file. -/
  fileName : Option String := none
  /-- The source line. -/
  line : Option UInt32 := none
  /-- The archive or directory that the class was loaded from. -/
  classPath : Option String := none
  /-- Whether the method is native. -/
  isNative : Bool := false
  /-- Whether the frame stands for an exception. -/
  isException : Bool := false
  /-- The message of the exception. -/
  message : Option String := none
deriving DecidableEq, Repr

/-- What a debugger prints of a frame. -/
structure DebuggerDetails where
  /-- The return type and qualifiers printed before the function. -/
  functionType : Option String := none
  /-- The position in the backtrace, as printed. -/
  number : UInt32 := 0
  /-- The source file. -/
  sourceFile : Option String := none
  /-- The source line. -/
  sourceLine : Option UInt32 := none
  /-- Whether the frame is the trampoline that runs a signal handler. -/
  signalHandler : Bool := false
  /-- The address. -/
  address : Option UInt64 := none
  /-- The shared library. -/
  library : Option String := none
deriving DecidableEq, Repr

/-- What a Ruby backtrace records of a frame. -/
structure RubyDetails where
  /-- The source file. -/
  fileName : Option String := none
  /-- The source line. -/
  line : UInt32 := 0
  /-- Whether the symbol is a placeholder such as `<main>` and not a method. -/
  specialFunction : Bool := false
  /-- How many blocks enclose the frame. -/
  blockLevel : UInt32 := 0
  /-- How many rescue clauses enclose the frame. -/
  rescueLevel : UInt32 := 0
deriving DecidableEq, Repr

/-- What a JavaScript stack trace records of a frame. -/
structure ScriptDetails where
  /-- The source file. -/
  fileName : Option String := none
  /-- The source line. -/
  line : UInt32 := 0
  /-- The column in the line. -/
  column : UInt32 := 0
deriving DecidableEq, Repr

/-- What is recorded of a frame besides its symbol, for each kind. -/
inductive Details where
  /-- Of a frame of a core dump. -/
  | core (details : CoreDetails)
  /-- Of a frame of a Python traceback. -/
  | python (details : PythonDetails)
  /-- Of a frame of a kernel oops. -/
  | oops (details : OopsDetails)
  /-- Of a frame of a Java stack trace. -/
  | java (details : JavaDetails)
  /-- Of a frame of a debugger's backtrace. -/
  | debugger (details : DebuggerDetails)
  /-- Of a frame of a Ruby backtrace. -/
  | ruby (details : RubyDetails)
  /-- Of a frame of a JavaScript stack trace. -/
  | script (details : ScriptDetails)
deriving DecidableEq, Repr

/-- The kind that records these details. -/
def Details.kind : Details → Kind
  | core _ => .core
  | python _ => .python
  | oops _ => .oops
  | java _ => .java
  | debugger _ => .debugger
  | ruby _ => .ruby
  | script _ => .script

end Frame

/-- One entry of a call stack. -/
structure Frame where
  /-- The function that executes. -/
  symbol : Symbol := .unknown
  /-- What else is recorded of the frame. -/
  details : Frame.Details
deriving DecidableEq, Repr

namespace Frame

/-- Where the frame was recorded. -/
def kind (f : Frame) : Kind :=
  f.details.kind

/-- The frame under another symbol. -/
def relabel (s : Symbol) (f : Frame) : Frame :=
  { f with symbol := s }

/-- The absolute address, for the kinds that record one. -/
def address? (f : Frame) : Option UInt64 :=
  match f.details with
  | .core d => some d.address
  | .oops d => some d.address
  | .debugger d => d.address
  | _ => none

@[simp] theorem symbol_relabel (s : Symbol) (f : Frame) : (f.relabel s).symbol = s := rfl

@[simp] theorem details_relabel (s : Symbol) (f : Frame) : (f.relabel s).details = f.details := rfl

@[simp] theorem kind_relabel (s : Symbol) (f : Frame) : (f.relabel s).kind = f.kind := rfl

/-! ### Frames made from a name

A parser that knows little more than a name starts from one of these. -/

/-- A frame of a core dump that is known by its symbol. -/
def ofCoreSymbol (s : Symbol) : Frame where
  symbol := s
  details := .core {}

/-- A frame of a core dump that is known by its place in a build of a module. -/
def ofBuildId (buildId : String) (offset : UInt64) : Frame where
  details := .core { buildId := some buildId, buildIdOffset := offset }

/-- A frame of a Python traceback. -/
def ofPython (s : Symbol) (file : String) : Frame where
  symbol := s
  details := .python { fileName := some file }

/-- A frame of a kernel oops that the kernel vouches for. -/
def ofOopsSymbol (s : Symbol) : Frame where
  symbol := s
  details := .oops { reliable := true }

/-- A frame of a Java stack trace. -/
def ofJavaSymbol (s : Symbol) : Frame where
  symbol := s
  details := .java {}

/-- A frame of a debugger's backtrace. -/
def ofDebuggerSymbol (s : Symbol) : Frame where
  symbol := s
  details := .debugger {}

/-- A frame of a Ruby backtrace. -/
def ofRuby (s : Symbol) (file : String) : Frame where
  symbol := s
  details := .ruby { fileName := some file }

/-- A frame of a JavaScript stack trace. -/
def ofScript (s : Symbol) (file : String) (line : UInt32) : Frame where
  symbol := s
  details := .script { fileName := some file, line }

end Frame

end CrashTriage
