import CrashTriage.Proofs.Grid.Storage

/-!
# The closed forms are exact

The place and the slot of a cell are closed forms with differences and halves. For natural numbers a
difference is zero where there is none, and the half of an odd number is rounded; and where numbers
are words of a machine, a product may not fit into one. **Nothing of this happens for the cells of a
matrix.**

To say so, the closed forms are calculated once more, operation by operation, and an operation has no
result unless it is exact and fits into a word (`Exact.sum?`, `Exact.product?`, `Exact.difference?`,
`Exact.half?`). The calculation of a place goes through as long as the product of the numbers of rows
and of columns but one fits (`Shape.position?_eq`, `Shape.cellCount?_eq`), and that of a slot as long
as the square of the number of columns fits (`Shape.slot?_eq`, `Shape.slotCount?_eq`); and they lead
to the closed forms. So a calculation with words, which cuts off what does not fit, leads to them as
well (`Indexing.isExactOn_words`).
-/

namespace CrashTriage

/-! ### Operations that are exact or have no result -/

namespace Exact

variable {limit a b : Nat}

/-- A sum that is below the limit. -/
def sum? (limit a b : Nat) : Option Nat :=
  if a + b < limit then some (a + b) else none

/-- A product that is below the limit. -/
def product? (limit a b : Nat) : Option Nat :=
  if a * b < limit then some (a * b) else none

/-- A difference that is not negative. -/
def difference? (a b : Nat) : Option Nat :=
  if b ≤ a then some (a - b) else none

/-- The half of an even number. -/
def half? (a : Nat) : Option Nat :=
  if 2 ∣ a then some (a / 2) else none

theorem sum?_of_lt (h : a + b < limit) : sum? limit a b = some (a + b) :=
  if_pos h

theorem product?_of_lt (h : a * b < limit) : product? limit a b = some (a * b) :=
  if_pos h

theorem difference?_of_le (h : b ≤ a) : difference? a b = some (a - b) :=
  if_pos h

theorem half?_of_dvd (h : 2 ∣ a) : half? a = some (a / 2) :=
  if_pos h

end Exact

namespace Cell

open Exact

variable {limit n i : Nat} {c : Cell}

/-! ### Places -/

/-- How many cells the rows above row `i` have, calculated exactly. The `i - 1` alone is meant to be
cut off at zero: there is no triangle above the first row. -/
def rowStart? (limit n i : Nat) : Option Nat := do
  let width ← difference? n 1
  let all ← product? limit i width
  let triangle ← half? (← product? limit i (i - 1))
  difference? all triangle

/-- The place of a cell, calculated exactly. -/
def position? (limit n : Nat) (c : Cell) : Option Nat := do
  let start ← rowStart? limit n c.row
  let shifted ← difference? (← sum? limit start c.column) c.row
  difference? shifted 1

theorem rowStart?_eq (hn : 1 ≤ n) (hi : i ≤ n) (hlimit : i * (n - 1) < limit) :
    rowStart? limit n i = some (rowStart n i) := by
  have hpairs : i * (i - 1) < limit :=
    Nat.lt_of_le_of_lt (Nat.mul_le_mul_left i (Nat.sub_le_sub_right hi 1)) hlimit
  have heven : 2 ∣ i * (i - 1) := (Nat.even_mul_pred_self i).two_dvd
  simp only [rowStart?, difference?_of_le hn, product?_of_lt hlimit, product?_of_lt hpairs,
    half?_of_dvd heven, difference?_of_le (triangle_le hi), Option.bind_eq_bind, Option.bind_some,
    rowStart]

theorem position?_eq (hc : c.row < c.column) (hcolumn : c.column < n)
    (hlimit : (c.row + 1) * (n - 1) < limit) : position? limit n c = some (c.position n) := by
  have hsucc : (c.row + 1) * (n - 1) = c.row * (n - 1) + (n - 1) := Nat.succ_mul _ _
  have hle : rowStart n c.row ≤ c.row * (n - 1) := Nat.sub_le _ _
  have hstart : rowStart? limit n c.row = some (rowStart n c.row) :=
    rowStart?_eq (by omega) (by omega) (by omega)
  have hsum : rowStart n c.row + c.column < limit := by omega
  simp only [position?, hstart, sum?_of_lt hsum, Option.bind_eq_bind, Option.bind_some]
  rw [difference?_of_le (by omega), Option.bind_some, difference?_of_le (by omega), position]
  exact congrArg some (by omega)

/-! ### Slots -/

/-- The slot of a cell, calculated exactly. -/
def slot? (limit n : Nat) (c : Cell) : Option Nat := do
  let l ← difference? n c.row
  let whole ← difference? (← product? limit n n) n
  let rest ← difference? (← product? limit l l) l
  let above ← half? (← difference? whole rest)
  difference? (← sum? limit above c.column) 1

/-- The slots of the rows above and of a row itself are fewer than the square. -/
theorem slots_above_add_lt (l : Nat) (hc : c.column < n) :
    ((n * n - n) - (l * l - l)) / 2 + c.column < n * n := by
  have hn : n ≤ n * n := Nat.le_mul_self n
  omega

theorem slot?_eq (hc : c.row < c.column) (hcolumn : c.column < n) (hlimit : n * n < limit) :
    slot? limit n c = some (c.slot n) := by
  obtain ⟨l, hl⟩ : ∃ l, l = n - c.row := ⟨_, rfl⟩
  have hln : l ≤ n := by omega
  have hl' : l ≤ l * l := Nat.le_mul_self l
  have hn' : n ≤ n * n := Nat.le_mul_self n
  have hsquare : l * l ≤ n * n := Nat.mul_le_mul hln hln
  -- the slots of a square grow with it, and there is an even number of cells off the diagonal
  have hrest : l * l - l ≤ n * n - n := by
    rw [← Nat.mul_sub_one, ← Nat.mul_sub_one]
    exact Nat.mul_le_mul hln (Nat.sub_le_sub_right hln 1)
  have heven : 2 ∣ (n * n - n) - (l * l - l) := by
    rw [← Nat.mul_sub_one, ← Nat.mul_sub_one]
    exact Nat.dvd_sub (Nat.even_mul_pred_self n).two_dvd (Nat.even_mul_pred_self l).two_dvd
  have hsum : ((n * n - n) - (l * l - l)) / 2 + c.column < limit :=
    (slots_above_add_lt l hcolumn).trans hlimit
  simp only [slot?, difference?_of_le (by omega : c.row ≤ n), ← hl, product?_of_lt hlimit,
    product?_of_lt (hsquare.trans_lt hlimit), difference?_of_le hn', difference?_of_le hl',
    difference?_of_le hrest, half?_of_dvd heven, sum?_of_lt hsum, Option.bind_eq_bind,
    Option.bind_some]
  rw [difference?_of_le (by omega), slot, ← hl]

end Cell

namespace Shape

open Exact

variable {s : Shape} {c : Cell} {limit : Nat}

/-- The number of cells, calculated exactly. -/
def cellCount? (limit : Nat) (s : Shape) : Option Nat :=
  Cell.rowStart? limit s.columns s.rows

/-- The number of slots, calculated exactly. -/
def slotCount? (limit : Nat) (s : Shape) : Option Nat := do
  let row ← difference? s.rows 1
  let column ← difference? s.columns 1
  sum? limit (← Cell.slot? limit s.columns { row, column }) 1

/-- **The number of cells is exact.** -/
theorem cellCount?_eq (hs : s.IsProper) (hlimit : s.rows * (s.columns - 1) < limit) :
    s.cellCount? limit = some s.cellCount :=
  Cell.rowStart?_eq (by have := hs.2; omega) hs.2.le hlimit

/-- **The place of a cell is exact.** -/
theorem position?_eq (hlimit : s.rows * (s.columns - 1) < limit) (hc : c ∈ s) :
    c.position? limit s.columns = some (c.position s.columns) :=
  Cell.position?_eq hc.2.1 hc.2.2
    (Nat.lt_of_le_of_lt (Nat.mul_le_mul_right _ hc.1) hlimit)

/-- **The slot of a cell is exact.** -/
theorem slot?_eq (hlimit : s.columns * s.columns < limit) (hc : c ∈ s) :
    c.slot? limit s.columns = some (c.slot s.columns) :=
  Cell.slot?_eq hc.2.1 hc.2.2 hlimit

/-- **The number of slots is exact.** -/
theorem slotCount?_eq (hs : s.IsProper) (hlimit : s.columns * s.columns < limit) :
    s.slotCount? limit = some s.slotCount := by
  have hmem := lastCell_mem hs
  have hslot : Cell.slot? limit s.columns { row := s.rows - 1, column := s.columns - 1 }
      = some (s.lastCell.slot s.columns) := slot?_eq hlimit hmem
  have hlt : s.lastCell.slot s.columns + 1 < limit := by
    have hsquare := Cell.slots_above_add_lt (s.columns - s.lastCell.row) hmem.2.2
    have hcolumn := hmem.2.1
    rw [Cell.slot]
    omega
  simp only [slotCount?, difference?_of_le hs.1, difference?_of_le (hs.1.trans hs.2.le), hslot,
    sum?_of_lt hlt, Option.bind_eq_bind, Option.bind_some, slotCount]

end Shape

end CrashTriage
