import CrashTriage.Frame.Basic

/-!
# Persisted frames

A frame is a record of one field: the name of its kind, with the details and the symbol in a
record of their own. Values that may be absent are left out when they are, all others are always
written; a reader takes any field that is missing at its default.
-/

namespace CrashTriage

namespace Frame

open Document

/-- The symbol, which is a field of every kind. -/
def symbolField (s : Symbol) : Fields :=
  field "function" s.toDocument

/-- Reads the symbol among the fields of a frame. -/
def symbolOf? (fields : Fields) : Option Symbol :=
  orElse fields "function" .unknown Symbol.ofDocument?

/-! ### Details as fields -/

/-- The details of a frame of a core dump. -/
def CoreDetails.toFields (d : CoreDetails) : Fields :=
  field "address" (.ofWord64 d.address)
    ++ optionalField "build_id" (d.buildId.map .string)
    ++ field "build_id_offset" (.ofWord64 d.buildIdOffset)
    ++ optionalField "file_name" (d.fileName.map .string)
    ++ optionalField "fingerprint" (d.fingerprint.map .string)
    ++ field "fingerprint_hashed" (.flag d.fingerprintHashed)

/-- Reads the details of a frame of a core dump. -/
def CoreDetails.ofFields? (fields : Fields) : Option CoreDetails := do
  let address ← orElse fields "address" 0 word64?
  let buildId ← nullable fields "build_id" string?
  let buildIdOffset ← orElse fields "build_id_offset" 0 word64?
  let fileName ← nullable fields "file_name" string?
  let fingerprint ← nullable fields "fingerprint" string?
  let fingerprintHashed ← orElse fields "fingerprint_hashed" false flag?
  return { address, buildId, buildIdOffset, fileName, fingerprint, fingerprintHashed }

/-- The details of a frame of a Python traceback. -/
def PythonDetails.toFields (d : PythonDetails) : Fields :=
  field "special_file" (.flag d.specialFile)
    ++ optionalField "file_name" (d.fileName.map .string)
    ++ field "file_line" (.ofWord32 d.line)
    ++ field "special_function" (.flag d.specialFunction)
    ++ optionalField "line_contents" (d.lineContents.map .string)

/-- Reads the details of a frame of a Python traceback. -/
def PythonDetails.ofFields? (fields : Fields) : Option PythonDetails := do
  let specialFile ← orElse fields "special_file" false flag?
  let fileName ← nullable fields "file_name" string?
  let line ← orElse fields "file_line" 0 word32?
  let specialFunction ← orElse fields "special_function" false flag?
  let lineContents ← nullable fields "line_contents" string?
  return { specialFile, fileName, line, specialFunction, lineContents }

/-- The details of a frame of a kernel oops. -/
def OopsDetails.toFields (d : OopsDetails) : Fields :=
  field "address" (.ofWord64 d.address)
    ++ field "reliable" (.flag d.reliable)
    ++ field "function_offset" (.ofWord64 d.functionOffset)
    ++ field "function_length" (.ofWord64 d.functionLength)
    ++ optionalField "module_name" (d.moduleName.map .string)
    ++ optionalField "special_stack" (d.specialStack.map .string)

/-- Reads the details of a frame of a kernel oops. -/
def OopsDetails.ofFields? (fields : Fields) : Option OopsDetails := do
  let address ← orElse fields "address" 0 word64?
  let reliable ← orElse fields "reliable" false flag?
  let functionOffset ← orElse fields "function_offset" 0 word64?
  let functionLength ← orElse fields "function_length" 0 word64?
  let moduleName ← nullable fields "module_name" string?
  let specialStack ← nullable fields "special_stack" string?
  return { address, reliable, functionOffset, functionLength, moduleName, specialStack }

/-- The details of a frame of a Java stack trace. -/
def JavaDetails.toFields (d : JavaDetails) : Fields :=
  optionalField "file_name" (d.fileName.map .string)
    ++ optionalField "file_line" (d.line.map .ofWord32)
    ++ optionalField "class_path" (d.classPath.map .string)
    ++ field "is_native" (.flag d.isNative)
    ++ field "is_exception" (.flag d.isException)
    ++ optionalField "message" (d.message.map .string)

/-- Reads the details of a frame of a Java stack trace. -/
def JavaDetails.ofFields? (fields : Fields) : Option JavaDetails := do
  let fileName ← nullable fields "file_name" string?
  let line ← nullable fields "file_line" word32?
  let classPath ← nullable fields "class_path" string?
  let isNative ← orElse fields "is_native" false flag?
  let isException ← orElse fields "is_exception" false flag?
  let message ← nullable fields "message" string?
  return { fileName, line, classPath, isNative, isException, message }

/-- The details of a frame of a debugger's backtrace. -/
def DebuggerDetails.toFields (d : DebuggerDetails) : Fields :=
  optionalField "function_type" (d.functionType.map .string)
    ++ field "number" (.ofWord32 d.number)
    ++ optionalField "source_file" (d.sourceFile.map .string)
    ++ optionalField "source_line" (d.sourceLine.map .ofWord32)
    ++ field "signal_handler_called" (.flag d.signalHandler)
    ++ optionalField "address" (d.address.map .ofWord64)
    ++ optionalField "library_name" (d.library.map .string)

/-- Reads the details of a frame of a debugger's backtrace. -/
def DebuggerDetails.ofFields? (fields : Fields) : Option DebuggerDetails := do
  let functionType ← nullable fields "function_type" string?
  let number ← orElse fields "number" 0 word32?
  let sourceFile ← nullable fields "source_file" string?
  let sourceLine ← nullable fields "source_line" word32?
  let signalHandler ← orElse fields "signal_handler_called" false flag?
  let address ← nullable fields "address" word64?
  let library ← nullable fields "library_name" string?
  return { functionType, number, sourceFile, sourceLine, signalHandler, address, library }

/-- The details of a frame of a Ruby backtrace. -/
def RubyDetails.toFields (d : RubyDetails) : Fields :=
  optionalField "file_name" (d.fileName.map .string)
    ++ field "file_line" (.ofWord32 d.line)
    ++ field "special_function" (.flag d.specialFunction)
    ++ field "block_level" (.ofWord32 d.blockLevel)
    ++ field "rescue_level" (.ofWord32 d.rescueLevel)

/-- Reads the details of a frame of a Ruby backtrace. -/
def RubyDetails.ofFields? (fields : Fields) : Option RubyDetails := do
  let fileName ← nullable fields "file_name" string?
  let line ← orElse fields "file_line" 0 word32?
  let specialFunction ← orElse fields "special_function" false flag?
  let blockLevel ← orElse fields "block_level" 0 word32?
  let rescueLevel ← orElse fields "rescue_level" 0 word32?
  return { fileName, line, specialFunction, blockLevel, rescueLevel }

/-- The details of a frame of a JavaScript stack trace. -/
def ScriptDetails.toFields (d : ScriptDetails) : Fields :=
  optionalField "file_name" (d.fileName.map .string)
    ++ field "file_line" (.ofWord32 d.line)
    ++ field "line_column" (.ofWord32 d.column)

/-- Reads the details of a frame of a JavaScript stack trace. -/
def ScriptDetails.ofFields? (fields : Fields) : Option ScriptDetails := do
  let fileName ← nullable fields "file_name" string?
  let line ← orElse fields "file_line" 0 word32?
  let column ← orElse fields "line_column" 0 word32?
  return { fileName, line, column }

/-! ### Details of any kind -/

/-- The name that a kind has as the one field of a persisted frame. -/
def Kind.tag : Kind → String
  | core => "Core"
  | python => "Python"
  | oops => "Koops"
  | java => "Java"
  | debugger => "Gdb"
  | ruby => "Ruby"
  | script => "Js"

/-- The kind of a field name. -/
def Kind.ofTag? (name : String) : Option Kind :=
  all.find? (·.tag == name)

/-- The details as fields. -/
def Details.toFields : Details → Fields
  | core d => d.toFields
  | python d => d.toFields
  | oops d => d.toFields
  | java d => d.toFields
  | debugger d => d.toFields
  | ruby d => d.toFields
  | script d => d.toFields

/-- Reads the details that frames of a kind have. -/
def Details.ofFields? : Kind → Fields → Option Details
  | .core, fields => (CoreDetails.ofFields? fields).map core
  | .python, fields => (PythonDetails.ofFields? fields).map python
  | .oops, fields => (OopsDetails.ofFields? fields).map oops
  | .java, fields => (JavaDetails.ofFields? fields).map java
  | .debugger, fields => (DebuggerDetails.ofFields? fields).map debugger
  | .ruby, fields => (RubyDetails.ofFields? fields).map ruby
  | .script, fields => (ScriptDetails.ofFields? fields).map script

/-! ### Frames -/

/-- The symbol and the details, behind the name of the kind. -/
def toDocument (f : Frame) : Document :=
  .record [(f.kind.tag, .record (symbolField f.symbol ++ f.details.toFields))]

/-- Reads a frame. -/
def ofDocument? (d : Document) : Option Frame := do
  let (name, some content) ← d.variant? | none
  let kind ← Kind.ofTag? name
  let fields ← content.record?
  let symbol ← symbolOf? fields
  let details ← Details.ofFields? kind fields
  return { symbol, details }

end Frame

end CrashTriage
