/-!
# Documents

The persisted form of every value of the library is a `Document`: a tree of records, lists and
scalars, such as a text format stores. Integers are kept exactly, of any size; other numbers are
double-precision values.

A type `α` with a persisted form has a writer `α.toDocument` and a reader `α.ofDocument?`, and the
reader gives back what was written. The readers are strict on what is there and lenient on what is
not asked for: a field of the wrong form is refused, a field that nobody asks for is ignored.

## Main definitions

* `Document`: the tree.
* `Document.word32?`, `Document.word64?`, `Document.flag?`, `Document.string?`, `Document.list?`:
  the readers of scalars and lists. A word has to be an integer of its width.
* `Document.required`, `Document.orElse`, `Document.nullable`: the three ways in which a record
  holds a field – always, with a default when it is missing, or possibly not at all.
* `Document.variant?`: the reader of a choice between named alternatives.
-/

namespace CrashTriage

/-- A persisted value. -/
inductive Document where
  /-- No value. -/
  | null
  /-- A truth value. -/
  | flag (value : Bool)
  /-- An integer, of any size. -/
  | integer (value : Int)
  /-- A number that is not written as an integer. -/
  | real (value : Float)
  /-- A text. -/
  | string (value : String)
  /-- A sequence of values. -/
  | list (items : List Document)
  /-- Values by name. A reader sees the first field of a name only. -/
  | record (fields : List (String × Document))

namespace Document

instance : Inhabited Document := ⟨null⟩

/-- The fields of a record. -/
abbrev Fields := List (String × Document)

/-! ### Writing -/

/-- A natural number. -/
def natural (n : Nat) : Document :=
  integer n

/-- A word of 32 bits. -/
def ofWord32 (w : UInt32) : Document :=
  natural w.toNat

/-- A word of 64 bits. -/
def ofWord64 (w : UInt64) : Document :=
  natural w.toNat

/-- A field that is written whatever its value. -/
def field (name : String) (value : Document) : Fields :=
  [(name, value)]

/-- A field that is left out when it has no value. -/
def optionalField (name : String) : Option Document → Fields
  | none => []
  | some value => [(name, value)]

/-! ### Reading scalars and lists -/

/-- The truth value, if the document is one. -/
def flag? : Document → Option Bool
  | flag value => some value
  | _ => none

/-- The text, if the document is one. -/
def string? : Document → Option String
  | string value => some value
  | _ => none

/-- The natural number below `bound`, if the document is one. -/
def naturalBelow? (bound : Nat) : Document → Option Nat
  | integer (.ofNat n) => if n < bound then some n else none
  | _ => none

/-- The word of 32 bits, if the document is an integer of that width. -/
def word32? (d : Document) : Option UInt32 :=
  (d.naturalBelow? UInt32.size).map UInt32.ofNat

/-- The word of 64 bits, if the document is an integer of that width. -/
def word64? (d : Document) : Option UInt64 :=
  (d.naturalBelow? UInt64.size).map UInt64.ofNat

/-- A size or an index, if the document is an integer that fits a word of 64 bits. -/
def size? (d : Document) : Option Nat :=
  d.naturalBelow? UInt64.size

/-- The single-precision number nearest to the document's number, if it is one. An integer is
rounded once; another number is a double, which is rounded again. -/
def single? : Document → Option Float32
  | integer (.ofNat n) => some n.toFloat32
  | integer (.negSucc n) => some (-(n + 1).toFloat32)
  | real value => some value.toFloat32
  | _ => none

/-- The fields, if the document is a record. -/
def record? : Document → Option Fields
  | record fields => some fields
  | _ => none

/-- The items, each read by `read`, if the document is a list and none of them is refused. -/
def list? {α : Type} (read : Document → Option α) : Document → Option (List α)
  | list items => items.mapM read
  | _ => none

/-! ### Reading fields -/

/-- The field `name`, which has to be there. -/
def required {α : Type} (fields : Fields) (name : String) (read : Document → Option α) :
    Option α :=
  (fields.lookup name).bind read

/-- The field `name`, or `default` when there is none. -/
def orElse {α : Type} (fields : Fields) (name : String) (default : α)
    (read : Document → Option α) : Option α :=
  match fields.lookup name with
  | none => some default
  | some value => read value

/-- The field `name`, which may be missing or without a value. -/
def nullable {α : Type} (fields : Fields) (name : String) (read : Document → Option α) :
    Option (Option α) :=
  match fields.lookup name with
  | none | some null => some none
  | some value => (read value).map some

/-! ### Choices -/

/-- The name of an alternative and its content, if it has one: a bare name, or a record of a
single field. -/
def variant? : Document → Option (String × Option Document)
  | string name => some (name, none)
  | record [(name, content)] => some (name, some content)
  | _ => none

/-- The name of an alternative that has no content. -/
def bareVariant? (d : Document) : Option String :=
  match d.variant? with
  | some (name, none) | some (name, some null) => some name
  | _ => none

end Document

end CrashTriage
