import CrashTriage.Condense.CallRule

/-!
# Aliases

Libraries call their own functions by internal names: glib and gtk put `IA__` in front of a name,
the C library puts `__GI_` in front, and it has variants of string and memory functions for each
processor, such as `__memcpy_sse2`. `Condense.resolveAlias` gives a frame the public name of its
function.
-/

namespace CrashTriage

namespace Condense

/-- The text behind a beginning, if it begins that way. -/
def afterBeginning? (beginning text : String) : Option String :=
  if beginning.toList.isPrefixOf text.toList then
    some (String.ofList (text.toList.drop beginning.length))
  else none

/-- The text in front of an end, if it ends that way. -/
def beforeEnd? (ending text : String) : Option String :=
  if ending.toList.isSuffixOf text.toList then
    some (String.ofList (text.toList.take (text.length - ending.length)))
  else none

/-- The public name for a name with the mark of an internal alias. -/
def publicName? (name : String) : Option String :=
  if (afterBeginning? "IA__g_" name).isSome || (afterBeginning? "IA__gtk" name).isSome then
    afterBeginning? "IA__" name
  else afterBeginning? "__GI_" name

/-- The functions that have variants for processors. -/
def variantFunctions : List String := [
  "memchr", "memcmp", "memcpy", "memmove", "memset", "rawmemchr", "strcasecmp", "strcasecmp_l",
  "strcat", "strchr", "strchrnul", "strcmp", "strcpy", "strcspn", "strlen", "strncmp", "strncpy",
  "strpbrk", "strrchr", "strspn", "strstr", "strtok"]

/-- What a variant has behind the name of the function. -/
def variantEndings : List String :=
  ["_sse2", "_sse2_bsf", "_ssse3", "_ssse3_rep", "_sse42", "_ia32"]

/-- The function that a name is a variant of. -/
def variantOf? (name : String) : Option String := do
  let stem ← afterBeginning? "__" name
  variantEndings.findSome? fun ending => do
    let base ← beforeEnd? ending stem
    variantFunctions.find? (· == base)

/-- The function that a frame executes a variant of, if the source file shows that the frame is
one of the C library. -/
def genericFunction? (s : Symbol) (d : Frame.DebuggerDetails) : Option String := do
  let generic ← s.name?.bind variantOf?
  if mentionsAny d.sourceFile [generic, "/sysdeps", "libc.so"] then some generic else none

/-- The symbol without the mark of an internal alias. -/
def stripAlias (s : Symbol) : Symbol :=
  match s.name?.bind publicName? with
  | some name => .ofName name
  | none => s

/-- The symbol without the mark of an internal alias, and then without that of a variant. -/
def publicSymbol (d : Frame.DebuggerDetails) (s : Symbol) : Symbol :=
  let s := stripAlias s
  match genericFunction? s d with
  | some name => .ofName name
  | none => s

/-- The frame under the public name of its function. Only a debugger shows internal names. -/
def resolveAlias (f : Frame) : Frame :=
  match f.details with
  | .debugger d => f.relabel (publicSymbol d f.symbol)
  | _ => f

end Condense

end CrashTriage
