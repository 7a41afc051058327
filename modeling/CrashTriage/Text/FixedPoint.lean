/-!
# Numbers with fixed places

A single-precision number is printed with a fixed number of places after the point. Its value is a
whole multiple of `2⁻¹⁵⁰`, so the digits are those of an exact quotient of natural numbers: **the
value is rounded once, to the nearest number of that many places, and a tie goes to the even
neighbour**. A negative number keeps its sign even when it is rounded to zero.
-/

namespace CrashTriage

namespace Text

/-- The natural number nearest to `n / d`; of two equally near ones, the even one. -/
def roundDiv (n d : Nat) : Nat :=
  let q := n / d
  let r := n % d
  if 2 * r < d ∨ (2 * r = d ∧ q % 2 = 0) then q else q + 1

/-- The units of the last of `places` places that make up one. -/
def unitsOfOne (places : Nat) : Nat :=
  Nat.pow 10 places

/-- A number of units in the last of `places` places, with the point set. -/
def placed (places units : Nat) : String :=
  let digits := toString (units % unitsOfOne places)
  toString (units / unitsOfOne places) ++ "."
    ++ String.ofList (digits.toList.leftpad places '0')

/-- The exponent field of a number. -/
def exponentField (x : Float32) : Nat :=
  (x.toBits.toNat >>> 23) % 256

/-- The fraction field of a number. -/
def fractionField (x : Float32) : Nat :=
  x.toBits.toNat % (1 <<< 23)

/-- The absolute value of a finite number as a multiple of `2⁻¹⁵⁰`. A number with exponent field
zero has no leading one, and the scale of the field one. -/
def magnitude (x : Float32) : Nat :=
  if exponentField x = 0 then fractionField x * 2
  else (fractionField x + (1 <<< 23)) <<< exponentField x

/-- The number with `places` places after the point. -/
def fixed (places : Nat) (x : Float32) : String :=
  let sign := if x.toBits.toNat < 1 <<< 31 then "" else "-"
  if exponentField x = 255 then
    if fractionField x = 0 then sign ++ "inf" else "NaN"
  else sign ++ placed places (roundDiv (magnitude x * unitsOfOne places) (1 <<< 150))

end Text

end CrashTriage
