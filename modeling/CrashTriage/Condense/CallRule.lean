import CrashTriage.Frame.Basic

/-!
# Rules for well known calls

Libraries and runtimes contribute frames that say nothing about a bug: every abort ends in the same
few calls of the C library. A `CallRule` describes such a call by the name of the function and, for
names that a program might use itself, by where the code has to come from.
-/

namespace CrashTriage

namespace Condense

/-- Whether a part occurs somewhere in a sequence of characters. -/
def occursIn (part : List Char) : List Char → Bool
  | [] => part.isEmpty
  | c :: rest => part.isPrefixOf (c :: rest) || occursIn part rest

/-- Whether one text contains another. -/
def mentions (text part : String) : Bool :=
  occursIn part.toList text.toList

/-- The characters of the part stand one after the other in the text. -/
theorem mentions_iff {text part : String} :
    mentions text part = true ↔ part.toList <:+: text.toList := by
  unfold mentions
  induction text.toList with
  | nil => rw [occursIn, List.isEmpty_iff, List.infix_nil]
  | cons c rest ih =>
    rw [occursIn, Bool.or_eq_true, ih, List.isPrefixOf_iff_prefix, List.infix_cons_iff]

/-- Whether a text is there and contains one of the parts. -/
def mentionsAny (text : Option String) (parts : List String) : Bool :=
  text.any fun t => parts.any (mentions t)

/-- A well known call. -/
structure CallRule where
  /-- The name of the function. -/
  function : String
  /-- Parts of source file names, one of which is found where the code comes from. -/
  files : List String := []
  /-- Parts of library names, one of which is found where the code comes from. -/
  libraries : List String := []
deriving DecidableEq, Repr

namespace CallRule

/-- Whether the rule goes by the name alone. -/
def byName (r : CallRule) : Bool :=
  r.files.isEmpty && r.libraries.isEmpty

/-- Whether the details of a debugger's frame show that the code comes from where the rule
expects it. -/
def fits (r : CallRule) (d : Frame.DebuggerDetails) : Bool :=
  r.byName || mentionsAny d.sourceFile r.files || mentionsAny d.library r.libraries

/-- Whether a frame is the call that the rule describes. Only a debugger's frame can be. -/
def covers (r : CallRule) (f : Frame) : Bool :=
  match f.details with
  | .debugger d => f.symbol.name? == some r.function && r.fits d
  | _ => false

end CallRule

/-- Whether one of the rules covers a frame. -/
def covered (rules : List CallRule) (f : Frame) : Bool :=
  rules.any (·.covers f)

end Condense

end CrashTriage
