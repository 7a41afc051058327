import CrashTriage.Frame.Basic
import CrashTriage.Text.Hexadecimal

/-!
# Frames as text

A frame is printed much as its source would print it: a debugger's frame as a line of a
backtrace, a frame of a kernel oops as a line of a call trace, and so on.
-/

namespace CrashTriage

namespace Frame

/-- A text behind `lead`, or nothing when there is none. -/
def led (lead : String) : Option String → String
  | none => ""
  | some text => lead ++ text

/-- As in `0x401000 abcd+0x10 main /usr/lib/libc.so`. -/
def CoreDetails.text (s : Symbol) (d : CoreDetails) : String :=
  Text.hex d.address.toNat
    ++ led " " (d.buildId.map (· ++ "+" ++ Text.hex d.buildIdOffset.toNat))
    ++ " " ++ s.text ++ led " " d.fileName

/-- A name, in angle brackets when it is a placeholder. -/
def placeholder (special : Bool) (name : String) : String :=
  if special then "<" ++ name ++ ">" else name

/-- As in `File "a.py", line 3, in <module>`. -/
def PythonDetails.text (s : Symbol) (d : PythonDetails) : String :=
  "File \"" ++ placeholder d.specialFile (d.fileName.getD "") ++ "\", line "
    ++ toString d.line.toNat ++ ", in " ++ placeholder d.specialFunction s.text

/-- As in `[<ffffffff8108b3c9>] ? warn_slowpath_common+0x69/0xa0 [ext4]`. -/
def OopsDetails.text (s : Symbol) (d : OopsDetails) : String :=
  "[<" ++ Text.paddedHex 16 d.address.toNat ++ ">] "
    ++ (if d.reliable then "" else "? ")
    ++ s.text ++ "+" ++ Text.hex d.functionOffset.toNat ++ "/" ++ Text.hex d.functionLength.toNat
    ++ led " " (d.moduleName.map fun name => "[" ++ name ++ "]")

/-- Where the code of a Java frame is. The line counts only behind a file. -/
def JavaDetails.place (d : JavaDetails) : String :=
  if d.isNative then "Native Method"
  else match d.fileName with
    | none => "Unknown Source"
    | some file => file ++ led ":" (d.line.map (toString ·.toNat))

/-- As in `at org.example.Main.run(Main.java:12)`, or `java.lang.Error: message` for an
exception. -/
def JavaDetails.text (s : Symbol) (d : JavaDetails) : String :=
  if d.isException then s.text ++ led ": " d.message
  else "at " ++ s.text ++ "(" ++ d.place ++ ")"

/-- As in `#2 0x400002 in main at main.c:20 from libexample.so`. -/
def DebuggerDetails.text (s : Symbol) (d : DebuggerDetails) : String :=
  if d.signalHandler then "<signal handler called>"
  else
    "#" ++ toString d.number.toNat ++ " "
      ++ (d.address.elim "" fun address => Text.hex address.toNat ++ " in ")
      ++ s.text
      ++ led " at " (d.sourceFile.map (· ++ led ":" (d.sourceLine.map (toString ·.toNat))))
      ++ led " from " d.library

/-- The blocks that enclose a Ruby frame. -/
def RubyDetails.blocks (d : RubyDetails) : String :=
  match d.blockLevel.toNat with
  | 0 => ""
  | 1 => "block in "
  | levels => "block (" ++ toString levels ++ " levels) in "

/-- As in ``a.rb:13:in `rescue in block (2 levels) in run'``. -/
def RubyDetails.text (s : Symbol) (d : RubyDetails) : String :=
  d.fileName.getD "" ++ ":" ++ toString d.line.toNat ++ ":in \x60"
    ++ String.join (List.replicate d.rescueLevel.toNat "rescue in ")
    ++ d.blocks ++ placeholder d.specialFunction s.text ++ "\x27"

/-- As in `at doWork (/srv/app/index.js:12:7)`. -/
def ScriptDetails.text (s : Symbol) (d : ScriptDetails) : String :=
  "at " ++ s.text ++ " (" ++ d.fileName.getD "" ++ ":" ++ toString d.line.toNat ++ ":"
    ++ toString d.column.toNat ++ ")"

/-- The frame as it is printed. -/
def text (f : Frame) : String :=
  match f.details with
  | .core d => d.text f.symbol
  | .python d => d.text f.symbol
  | .oops d => d.text f.symbol
  | .java d => d.text f.symbol
  | .debugger d => d.text f.symbol
  | .ruby d => d.text f.symbol
  | .script d => d.text f.symbol

end Frame

end CrashTriage
