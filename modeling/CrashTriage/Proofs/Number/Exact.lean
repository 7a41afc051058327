import Mathlib.Algebra.Order.Ring.Rat
import Mathlib.Tactic.NormNum

/-!
# Exact numbers

A formula over numbers of any sort can be evaluated exactly, in rational numbers. There, though,
dividing by zero gives zero and goes unnoticed. The numbers of this file are rational ones that
notice: **dividing by zero gives a value that is no number** (`Exact.undefined`), and every
operation that meets it gives it back. So a formula that comes to a number has not divided by zero
anywhere on the way.

No comparison with an undefined value holds, so cutting such a value off at a bound leaves it as it
is.
-/

namespace CrashTriage

/-- A rational number, or what becomes of a division by zero. -/
inductive Exact where
  /-- A number. -/
  | number (value : ℚ)
  /-- No number. -/
  | undefined
deriving DecidableEq

namespace Exact

/-- The number of a count. -/
def ofNat (n : ℕ) : Exact :=
  number n

/-- An operation on numbers, which gives back what is undefined. -/
def lift (f : ℚ → ℚ → Exact) : Exact → Exact → Exact
  | number p, number q => f p q
  | _, _ => undefined

instance : Add Exact := ⟨lift fun p q => number (p + q)⟩

instance : Sub Exact := ⟨lift fun p q => number (p - q)⟩

instance : Mul Exact := ⟨lift fun p q => number (p * q)⟩

instance : Div Exact := ⟨lift fun p q => if q = 0 then undefined else number (p / q)⟩

/-- Only numbers are compared. -/
protected def Lt : Exact → Exact → Prop
  | number p, number q => p < q
  | _, _ => False

instance : LT Exact := ⟨Exact.Lt⟩

instance : DecidableLT Exact
  | number p, number q => inferInstanceAs (Decidable (p < q))
  | number _, undefined => isFalse id
  | undefined, number _ => isFalse id
  | undefined, undefined => isFalse id

variable {p q : ℚ}

@[simp] theorem number_add : number p + number q = number (p + q) := rfl

@[simp] theorem number_sub : number p - number q = number (p - q) := rfl

@[simp] theorem number_mul : number p * number q = number (p * q) := rfl

@[simp] theorem number_lt : number p < number q ↔ p < q := Iff.rfl

/-- **Dividing by a number other than zero** gives a number. -/
theorem number_div (hq : q ≠ 0) : number p / number q = number (p / q) :=
  if_neg hq

theorem add_comm (x y : Exact) : x + y = y + x := by
  cases x with
  | undefined => cases y <;> rfl
  | number p =>
    cases y with
    | undefined => rfl
    | number q => rw [number_add, number_add, Rat.add_comm]

end Exact

end CrashTriage
