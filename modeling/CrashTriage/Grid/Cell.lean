/-!
# The cells of a distance matrix

A population of `n` threads has one distance for each pair of threads, and only the first `m` of
them are compared with all others. The pairs to compare are the **cells** `(i, j)` with `i < j`,
`i < m` and `j < n`: the first `m` rows of an `n × n` grid, strictly above the diagonal.

Row by row the cells form one sequence, and three descriptions of it are used side by side:

* `Cell.position` tells the place of a cell in the sequence, in closed form;
* `Shape.cellAt?` finds the cell at a place, by walking over whole rows;
* `Shape.run` lists the cells from a given one on, stepping to the next row at the end of each.

## Main definitions

* `Cell`, `Shape`: a pair of threads, and the extent of a matrix.
* `Shape.IsProper`: the extents a matrix can have, `1 ≤ m < n`.
* `Shape.clamp?`: the proper extent for a demand, if there is one.
-/

namespace CrashTriage

/-- A pair of threads by their indices. -/
structure Cell where
  /-- The index of the first thread. -/
  row : Nat
  /-- The index of the second thread. -/
  column : Nat
deriving DecidableEq, Repr

/-- The extent of a distance matrix. -/
structure Shape where
  /-- How many threads are compared with the whole population. -/
  rows : Nat
  /-- The size of the population. -/
  columns : Nat
deriving DecidableEq, Repr

namespace Cell

/-- The pair as it is printed. -/
def text (c : Cell) : String :=
  "(" ++ toString c.row ++ ", " ++ toString c.column ++ ")"

/-- The cell that holds the distance of two different threads, in whichever order they are
given. -/
def between (i j : Nat) : Cell where
  row := min i j
  column := max i j

/-- How many cells the rows above row `i` have in a population of `n`: each row has one cell less
than the one above it. -/
def rowStart (n i : Nat) : Nat :=
  i * (n - 1) - i * (i - 1) / 2

/-- The place of a cell among the cells of a population of `n`, counted row by row. -/
def position (n : Nat) (c : Cell) : Nat :=
  rowStart n c.row + (c.column - c.row - 1)

end Cell

namespace Shape

/-- The extent as it is printed. -/
def text (s : Shape) : String :=
  toString s.rows ++ "x" ++ toString s.columns

/-- A cell of the matrix lies in one of its rows, strictly above the diagonal. -/
instance : Membership Cell Shape where
  mem s c := c.row < s.rows ∧ c.row < c.column ∧ c.column < s.columns

theorem mem_iff {s : Shape} {c : Cell} :
    c ∈ s ↔ c.row < s.rows ∧ c.row < c.column ∧ c.column < s.columns :=
  Iff.rfl

instance (s : Shape) (c : Cell) : Decidable (c ∈ s) :=
  inferInstanceAs (Decidable (c.row < s.rows ∧ c.row < c.column ∧ c.column < s.columns))

/-- The extents that a matrix can have: at least one row, and a cell in each. -/
def IsProper (s : Shape) : Prop :=
  1 ≤ s.rows ∧ s.rows < s.columns

instance (s : Shape) : Decidable s.IsProper :=
  inferInstanceAs (Decidable (1 ≤ s.rows ∧ s.rows < s.columns))

/-- The extent for a demand of `s.rows` rows: as many as have a cell, since the last thread has
none above the diagonal. There is no such extent for fewer than two threads or for no row. -/
def clamp? (s : Shape) : Option Shape :=
  if s.columns < 2 ∨ s.rows = 0 then none
  else some { s with rows := min s.rows (s.columns - 1) }

/-! ### The sequence of the cells -/

/-- The number of cells. -/
def cellCount (s : Shape) : Nat :=
  Cell.rowStart s.columns s.rows

/-- The cell at a place of the sequence, if the matrix has that many. -/
def cellAt? (s : Shape) (position : Nat) : Option Cell :=
  search (min s.rows (s.columns - 1)) 0 position
where
  /-- Looks through `rows` more rows, of which `row` is the first, for the cell that has `rest`
  cells in front of it there. -/
  search : (rows row rest : Nat) → Option Cell
    | 0, _, _ => none
    | rows + 1, row, rest =>
      let width := s.columns - 1 - row
      if rest < width then some { row, column := row + 1 + rest }
      else search rows (row + 1) (rest - width)

/-- The cell behind `c`: its right neighbour, or the first cell of the next row. -/
def next (s : Shape) (c : Cell) : Cell :=
  if c.column + 1 = s.columns then { row := c.row + 1, column := c.row + 2 }
  else { c with column := c.column + 1 }

/-- At most `length` cells from `c` on. The run ends early where it would leave the matrix. -/
def run (s : Shape) : (c : Cell) → (length : Nat) → List Cell
  | _, 0 => []
  | c, length + 1 =>
    if c.row < s.rows ∧ c.column < s.columns then c :: run s (s.next c) length else []

/-- All cells, row by row. -/
def cells (s : Shape) : List Cell :=
  s.run { row := 0, column := 1 } s.cellCount

end Shape

end CrashTriage
