import CrashTriage.Document

/-!
# Kinds of frames

Stack frames come from seven sources. Frames of different kinds are never compared with each
other, and a thread holds frames of one kind only.
-/

namespace CrashTriage

namespace Frame

/-- Where a frame was recorded. -/
inductive Kind where
  /-- Unwound from a core dump. -/
  | core
  /-- A Python traceback. -/
  | python
  /-- The call trace of a kernel oops. -/
  | oops
  /-- A Java stack trace. -/
  | java
  /-- The backtrace that a debugger printed. -/
  | debugger
  /-- A Ruby backtrace. -/
  | ruby
  /-- A JavaScript stack trace. -/
  | script
deriving DecidableEq, Repr

namespace Kind

/-- The short name of a kind, in messages and in persisted forms. -/
def text : Kind → String
  | core => "core"
  | python => "python"
  | oops => "koops"
  | java => "java"
  | debugger => "gdb"
  | ruby => "ruby"
  | script => "js"

/-- Every kind. -/
def all : List Kind :=
  [core, python, oops, java, debugger, ruby, script]

/-- The kind of a short name. -/
def ofText? (name : String) : Option Kind :=
  all.find? (·.text == name)

/-- The short name. -/
def toDocument (k : Kind) : Document :=
  .string k.text

/-- Reads a kind. -/
def ofDocument? (d : Document) : Option Kind :=
  d.bareVariant?.bind ofText?

end Kind

end Frame

end CrashTriage
