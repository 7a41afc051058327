import CrashTriage.Grid.Cell

/-!
# Where the distances are stored

A distance matrix keeps its distances in one flat sequence of slots. The slot of a cell is a closed
form (`Cell.slot`) that gives every row one slot more than it has cells, so **between two
consecutive rows one slot belongs to no cell**: it is never written and holds zero. The last row
ends the storage, so `m` rows have `m - 1` such gaps (`Shape.slotCount`).
-/

namespace CrashTriage

namespace Cell

/-- The slot of a cell in the storage for a population of `n`: the rows above row `i` take
`((n² - n) - (l² - l)) / 2` slots, where `l = n - i`. -/
def slot (n : Nat) (c : Cell) : Nat :=
  let l := n - c.row
  ((n * n - n) - (l * l - l)) / 2 + c.column - 1

end Cell

namespace Shape

/-- The last cell of a matrix. -/
def lastCell (s : Shape) : Cell where
  row := s.rows - 1
  column := s.columns - 1

/-- The number of slots of the storage, which ends with the slot of the last cell. -/
def slotCount (s : Shape) : Nat :=
  s.lastCell.slot s.columns + 1

end Shape

end CrashTriage
