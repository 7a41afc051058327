import CrashTriage.Document

/-!
# Symbols

The function that a frame executes is known by a `Symbol`. A parser that could not resolve it
leaves it unknown, which is written `??`; two unknown symbols may or may not be the same function,
so they never agree. When two threads are compared, unknown symbols at the same place in both may
be given a common label, and then agree through the label.
-/

namespace CrashTriage

/-- What is known of the function of a frame. -/
inductive Symbol where
  /-- Nothing. -/
  | unknown
  /-- Its name. -/
  | named (name : String)
  /-- That it is the function with the same label in the thread it was paired with. -/
  | paired (label : UInt32)
deriving DecidableEq, Repr

namespace Symbol

instance : Inhabited Symbol := ⟨unknown⟩

/-- How a function that could not be resolved is written. -/
def unknownMark : String := "??"

/-- What a label is written behind. -/
def labelMark : String := "unknown#"

/-- The symbol for a name as a parser found it: the empty name and `??` stand for an unknown
function. -/
def ofName (name : String) : Symbol :=
  if name = "" ∨ name = unknownMark then unknown else named name

/-- The symbol for a name that may be missing. -/
def ofName? (name : Option String) : Symbol :=
  name.elim unknown ofName

/-- Whether nothing is known of the function. -/
def isUnknown : Symbol → Bool
  | unknown => true
  | _ => false

/-- Whether the function is known by name. -/
def isNamed : Symbol → Bool
  | named _ => true
  | _ => false

/-- The name of the function, if it is known by name. -/
def name? : Symbol → Option String
  | named name => some name
  | _ => none

/-- Whether two symbols stand for the same function: the same name, or the same label. An unknown
symbol agrees with none, not even with another unknown one. -/
def agrees : Symbol → Symbol → Bool
  | named a, named b => a == b
  | paired a, paired b => a == b
  | _, _ => false

/-- The symbol as it is printed. -/
def text : Symbol → String
  | unknown => unknownMark
  | named name => name
  | paired label => labelMark ++ toString label.toNat

/-! ### Persisted form -/

/-- A choice of three alternatives; the unknown symbol is a bare name. -/
def toDocument : Symbol → Document
  | unknown => .string "Unknown"
  | named name => .record [("Known", .string name)]
  | paired label => .record [("Paired", .ofWord32 label)]

/-- Reads a symbol. A name is taken as it stands: `""` and `"??"` are not turned into the unknown
symbol. -/
def ofDocument? (d : Document) : Option Symbol :=
  match d.variant? with
  | some ("Unknown", none) | some ("Unknown", some .null) => some unknown
  | some ("Known", some content) => content.string?.map named
  | some ("Paired", some content) => content.word32?.map paired
  | _ => none

end Symbol

end CrashTriage
