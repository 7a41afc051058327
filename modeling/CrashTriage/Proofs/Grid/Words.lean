import CrashTriage.Grid.Indexing
import CrashTriage.Proofs.Grid.Exact

/-!
# Counting in words is exact

Cells and slots can be counted with words of 64 bits, where what does not fit is cut off
(`Indexing.words`). **As long as a word can hold the square of the number of columns, nothing is cut
off** (`Indexing.isExactOn_words`).

This is not shown for the closed forms but for each operation: where an operation has a result if it
is calculated exactly, words have the same result (`Exact.toNat_add` and its siblings). So whatever
is known of the exact calculations (`Shape.slot?_eq`, `Shape.position?_eq`) holds of words as well.
-/

namespace CrashTriage

/-! ### Operations -/

namespace Exact

variable {x y : UInt64} {a b k : Nat}

theorem toNat_add (hx : x.toNat = a) (hy : y.toNat = b) (h : sum? (2 ^ 64) a b = some k) :
    (x + y).toNat = k := by
  obtain ⟨hlt, ⟨⟩⟩ := Option.ite_none_right_eq_some.mp h
  rw [UInt64.toNat_add, hx, hy, Nat.mod_eq_of_lt hlt]

theorem toNat_mul (hx : x.toNat = a) (hy : y.toNat = b) (h : product? (2 ^ 64) a b = some k) :
    (x * y).toNat = k := by
  obtain ⟨hlt, ⟨⟩⟩ := Option.ite_none_right_eq_some.mp h
  rw [UInt64.toNat_mul, hx, hy, Nat.mod_eq_of_lt hlt]

theorem toNat_sub (hx : x.toNat = a) (hy : y.toNat = b) (h : difference? a b = some k) :
    (x - y).toNat = k := by
  obtain ⟨hle, ⟨⟩⟩ := Option.ite_none_right_eq_some.mp h
  subst hx hy
  exact UInt64.toNat_sub_of_le x y (UInt64.le_iff_toNat_le.mpr hle)

theorem toNat_half (hx : x.toNat = a) (h : half? a = some k) : (x / 2).toNat = k := by
  obtain ⟨-, ⟨⟩⟩ := Option.ite_none_right_eq_some.mp h
  rw [UInt64.toNat_div, hx]
  rfl

end Exact

/-! ### Places and slots -/

namespace Cell

open Exact

variable {n k : Nat} {c : Cell}

theorem toNat_wordRowStart {x y : UInt64} {i : Nat} (hx : x.toNat = n) (hy : y.toNat = i)
    (h : rowStart? (2 ^ 64) n i = some k) : (wordRowStart x y).toNat = k := by
  simp only [rowStart?, Option.bind_eq_bind, Option.bind_eq_some_iff] at h
  obtain ⟨width, hwidth, all, hall, pairs, hpairs, triangle, htriangle, hk⟩ := h
  -- the one difference that is meant to be cut off
  have hpred : (if y = 0 then 0 else y - 1).toNat = i - 1 := by
    subst hy
    split
    · next hzero => rw [hzero]; rfl
    · next hzero =>
      have hpos : y.toNat ≠ 0 := fun heq => hzero (UInt64.toNat_inj.mp heq)
      exact toNat_sub rfl UInt64.toNat_one (difference?_of_le (Nat.one_le_iff_ne_zero.mpr hpos))
  have hall := toNat_mul hy (toNat_sub hx UInt64.toNat_one hwidth) hall
  exact toNat_sub hall (toNat_half (toNat_mul hy hpred hpairs) htriangle) hk

theorem wordPosition_eq (hn : n < 2 ^ 64) (hrow : c.row < 2 ^ 64) (hcolumn : c.column < 2 ^ 64)
    (h : c.position? (2 ^ 64) n = some k) : c.wordPosition n = k := by
  simp only [position?, Option.bind_eq_bind, Option.bind_eq_some_iff] at h
  obtain ⟨start, hstart, sum, hsum, shifted, hshifted, hk⟩ := h
  have hrow := UInt64.toNat_ofNat_of_lt' hrow
  have hstart := toNat_wordRowStart (UInt64.toNat_ofNat_of_lt' hn) hrow hstart
  have hsum := toNat_add hstart (UInt64.toNat_ofNat_of_lt' hcolumn) hsum
  exact toNat_sub (toNat_sub hsum hrow hshifted) UInt64.toNat_one hk

theorem wordSlot_eq (hn : n < 2 ^ 64) (hrow : c.row < 2 ^ 64) (hcolumn : c.column < 2 ^ 64)
    (h : c.slot? (2 ^ 64) n = some k) : c.wordSlot n = k := by
  simp only [slot?, Option.bind_eq_bind, Option.bind_eq_some_iff] at h
  obtain ⟨l, hl, square, hsquare, whole, hwhole, square', hsquare', rest, hrest, above, habove,
    half, hhalf, sum, hsum, hk⟩ := h
  have hn := UInt64.toNat_ofNat_of_lt' hn
  have hl := toNat_sub hn (UInt64.toNat_ofNat_of_lt' hrow) hl
  have hwhole := toNat_sub (toNat_mul hn hn hsquare) hn hwhole
  have hrest := toNat_sub (toNat_mul hl hl hsquare') hl hrest
  have hhalf := toNat_half (toNat_sub hwhole hrest habove) hhalf
  have hsum := toNat_add hhalf (UInt64.toNat_ofNat_of_lt' hcolumn) hsum
  exact toNat_sub hsum UInt64.toNat_one hk

end Cell

namespace Shape

open Exact

variable {s : Shape} {c : Cell}

/-- The numbers of rows and of columns are words, and so is the number of pairs of them that places
are calculated with. -/
theorem lt_of_square_lt (hs : s.IsProper) (hwords : s.columns * s.columns < 2 ^ 64) :
    s.rows < 2 ^ 64 ∧ s.columns < 2 ^ 64 ∧ s.rows * (s.columns - 1) < 2 ^ 64 := by
  have hcolumns := (Nat.le_mul_self s.columns).trans_lt hwords
  have hle : s.rows * (s.columns - 1) ≤ s.columns * s.columns :=
    Nat.mul_le_mul hs.2.le (Nat.sub_le s.columns 1)
  exact ⟨hs.2.trans hcolumns, hcolumns, hle.trans_lt hwords⟩

theorem wordCellCount_eq (hs : s.IsProper) (hwords : s.columns * s.columns < 2 ^ 64) :
    s.wordCellCount = s.cellCount := by
  obtain ⟨hrows, hcolumns, hpairs⟩ := lt_of_square_lt hs hwords
  exact Cell.toNat_wordRowStart (UInt64.toNat_ofNat_of_lt' hcolumns)
    (UInt64.toNat_ofNat_of_lt' hrows) (cellCount?_eq hs hpairs)

theorem wordSlotCount_eq (hs : s.IsProper) (hwords : s.columns * s.columns < 2 ^ 64) :
    s.wordSlotCount = s.slotCount := by
  have hcount := slotCount?_eq hs hwords
  simp only [slotCount?, Option.bind_eq_bind, Option.bind_eq_some_iff] at hcount
  obtain ⟨row, hrow, column, hcolumn, slot, hslot, hcount⟩ := hcount
  obtain ⟨-, ⟨⟩⟩ := Option.ite_none_right_eq_some.mp hrow
  obtain ⟨-, ⟨⟩⟩ := Option.ite_none_right_eq_some.mp hcolumn
  obtain ⟨hrows, hcolumns, -⟩ := lt_of_square_lt hs hwords
  have hlast : s.lastCell.wordSlot s.columns = slot :=
    Cell.wordSlot_eq hcolumns ((Nat.sub_le s.rows 1).trans_lt hrows)
      ((Nat.sub_le s.columns 1).trans_lt hcolumns) hslot
  have hword : (UInt64.ofNat (s.lastCell.wordSlot s.columns)).toNat = slot := by
    rw [← hlast, Cell.wordSlot, UInt64.ofNat_toNat]
  exact toNat_add hword UInt64.toNat_one hcount

theorem wordPosition_eq (hs : s.IsProper) (hwords : s.columns * s.columns < 2 ^ 64) (hc : c ∈ s) :
    c.wordPosition s.columns = c.position s.columns := by
  obtain ⟨hrows, hcolumns, hpairs⟩ := lt_of_square_lt hs hwords
  exact Cell.wordPosition_eq hcolumns (hc.1.trans hrows) (hc.2.2.trans hcolumns)
    (position?_eq hpairs hc)

theorem wordSlot_eq (hs : s.IsProper) (hwords : s.columns * s.columns < 2 ^ 64) (hc : c ∈ s) :
    c.wordSlot s.columns = c.slot s.columns := by
  obtain ⟨hrows, hcolumns, -⟩ := lt_of_square_lt hs hwords
  exact Cell.wordSlot_eq hcolumns (hc.1.trans hrows) (hc.2.2.trans hcolumns) (slot?_eq hwords hc)

end Shape

/-! ### Counting -/

namespace Indexing

/-- **The cells and slots of an extent are counted as with numbers of any size.** -/
structure IsExactOn (ix : Indexing) (s : Shape) : Prop where
  /-- The number of cells is the exact one. -/
  cellCount_eq : ix.cellCount s = s.cellCount
  /-- The number of slots is the exact one. -/
  slotCount_eq : ix.slotCount s = s.slotCount
  /-- Each cell has its exact place. -/
  position_eq (c : Cell) (hc : c ∈ s) : ix.position s.columns c = c.position s.columns
  /-- Each cell has its exact slot. -/
  slot_eq (c : Cell) (hc : c ∈ s) : ix.slot s.columns c = c.slot s.columns

variable {s : Shape}

/-- **Words count exactly, as long as one can hold the square of the number of columns.** -/
theorem isExactOn_words (hs : s.IsProper) (hwords : s.columns * s.columns < 2 ^ 64) :
    words.IsExactOn s where
  cellCount_eq := Shape.wordCellCount_eq hs hwords
  slotCount_eq := Shape.wordSlotCount_eq hs hwords
  position_eq _ hc := Shape.wordPosition_eq hs hwords hc
  slot_eq _ hc := Shape.wordSlot_eq hs hwords hc

end Indexing

end CrashTriage
