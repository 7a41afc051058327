import CrashTriage.Grid.Slot

/-!
# Counting in words

Four numbers are calculated for a distance matrix: the place of a cell and the number of cells, the
slot of a cell and the number of slots. Their closed forms are meant for numbers without a bound
(`Indexing.exact`). A machine calculates them with words of 64 bits, and **what does not fit into a
word is cut off**, after every operation (`Indexing.words`).

As long as a word can hold the square of the size of the population, there is no difference. A
population that is in memory is taken to be small enough, so where the work starts from threads, the
numbers are the exact ones. But an extent may also be given by two numbers alone, by a caller or in a
persisted form, and these can be as large as a word. So the functions that are given an extent, or a
value that carries one, take an `Indexing` as well, which is the exact one if none is named.
-/

namespace CrashTriage

namespace Cell

/-- How many cells the rows above row `i` have, calculated with words. The `i - 1` alone is meant to
be cut off at zero. -/
def wordRowStart (n i : UInt64) : UInt64 :=
  i * (n - 1) - i * (if i = 0 then 0 else i - 1) / 2

/-- The place of a cell, calculated with words. -/
def wordPosition (n : Nat) (c : Cell) : Nat :=
  let i := UInt64.ofNat c.row
  (wordRowStart (.ofNat n) i + .ofNat c.column - i - 1).toNat

/-- The slot of a cell, calculated with words. -/
def wordSlot (n : Nat) (c : Cell) : Nat :=
  let n := UInt64.ofNat n
  let l := n - .ofNat c.row
  (((n * n - n) - (l * l - l)) / 2 + .ofNat c.column - 1).toNat

end Cell

namespace Shape

/-- The number of cells, calculated with words. -/
def wordCellCount (s : Shape) : Nat :=
  (Cell.wordRowStart (.ofNat s.columns) (.ofNat s.rows)).toNat

/-- The number of slots, calculated with words. -/
def wordSlotCount (s : Shape) : Nat :=
  (UInt64.ofNat (s.lastCell.wordSlot s.columns) + 1).toNat

end Shape

/-- **How cells and slots are counted.** -/
structure Indexing where
  /-- The place of a cell, in a population of the given size. -/
  position : Nat → Cell → Nat
  /-- The number of cells. -/
  cellCount : Shape → Nat
  /-- The slot of a cell, in a population of the given size. -/
  slot : Nat → Cell → Nat
  /-- The number of slots. -/
  slotCount : Shape → Nat

namespace Indexing

/-- Counting with numbers of any size. -/
@[reducible] def exact : Indexing where
  position := Cell.position
  cellCount := Shape.cellCount
  slot := Cell.slot
  slotCount := Shape.slotCount

/-- Counting with words of 64 bits. -/
def words : Indexing where
  position := Cell.wordPosition
  cellCount := Shape.wordCellCount
  slot := Cell.wordSlot
  slotCount := Shape.wordSlotCount

end Indexing

end CrashTriage
