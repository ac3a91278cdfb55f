/-!
# Shortest decimals

A binary number has infinitely many decimals that read back as it. The text of
a number uses the fewest digits that do, and of those the ones nearest to it.

A positive number is `mantissa · 2 ^ exponent`. The decimals that read back as
it are those between the midpoints to its two neighbours; the midpoints
themselves belong to it when the mantissa is even. For one digit, two digits,
and so on, the number has two neighbours on the grid of decimals with so many
digits, and if any grid point reads back, one of these two does. Seventeen
digits are always enough.

All of it is exact arithmetic on natural numbers: a comparison of two fractions
is a comparison of two products.

## Main definitions

* `Binary`: A positive number in binary.
* `Binary.shortest`: Its digits and the position of the decimal point.
-/

namespace Subword

namespace Decimal

/-- A positive number `mantissa · 2 ^ exponent`. The flag says that the number below it is
    at half the distance of the number above. -/
structure Binary where
  mantissa : Nat
  exponent : Int
  narrowBelow : Bool

/-- A fraction of natural numbers. -/
structure Fraction where
  num : Nat
  den : Nat

/-- Some power of a number, as a fraction. -/
def power (base : Nat) (exponent : Int) : Fraction :=
  if 0 ≤ exponent then ⟨Nat.pow base exponent.toNat, 1⟩ else ⟨1, Nat.pow base (-exponent).toNat⟩

/-- The digits of a decimal `0.d₁d₂… · 10 ^ point`, as one number. -/
structure Digits where
  value : Nat
  point : Int

namespace Binary

/-- A quarter of the distance to the number above: the unit in which midpoints are whole. -/
def quarter (b : Binary) : Fraction :=
  power 2 (b.exponent - 2)

/-- Whether a decimal `digits · 10 ^ scale` reads back as the number. -/
def readsBack (b : Binary) (digits : Nat) (scale : Int) : Bool :=
  let unit := b.quarter
  let grid := power 10 scale
  let decimal := digits * grid.num * unit.den
  let below := (4 * b.mantissa - if b.narrowBelow then 1 else 2) * unit.num * grid.den
  let above := (4 * b.mantissa + 2) * unit.num * grid.den
  if b.mantissa % 2 = 0 then below ≤ decimal && decimal ≤ above
  else below < decimal && decimal < above

/-- The number in units of `10 ^ scale`, as a fraction. -/
def inUnits (b : Binary) (scale : Int) : Fraction :=
  let unit := b.quarter
  let grid := power 10 scale
  ⟨4 * b.mantissa * unit.num * grid.den, unit.den * grid.num⟩

/-- Of the number's two neighbours on the grid of `10 ^ scale`, the nearest that reads back.
    Of two equally near ones it is the even one. -/
def nearest? (b : Binary) (scale : Int) : Option Nat :=
  let q := b.inUnits scale
  let lower := q.num / q.den
  let upper := lower + 1
  match b.readsBack lower scale, b.readsBack upper scale with
  | false, false => none
  | true, false => some lower
  | false, true => some upper
  | true, true =>
    let twice := 2 * (q.num - lower * q.den)
    if twice < q.den then some lower
    else if q.den < twice then some upper
    else if lower % 2 = 0 then some lower
    else some upper

/-- Tries grids from coarse to fine. The first argument bounds their number. -/
def search (b : Binary) (point : Int) : Nat → Nat → Option Digits
  | 0, _ => none
  | steps + 1, count =>
    match b.nearest? (point - count) with
    | some 0 => search b point steps (count + 1)
    | some value =>
      -- A round-up can reach the next power of ten, and is then one digit longer.
      some ⟨value, point - count + (Nat.toDigits 10 value).length⟩
    | none => search b point steps (count + 1)

/-- The least `n` with the number below `10 ^ n`. -/
def magnitude (b : Binary) : Int :=
  let q := b.inUnits 0
  let whole := q.num / q.den
  if 0 < whole then (Nat.toDigits 10 whole).length
  else
    -- The number is below one: the reciprocal has as many digits as there are zeros to skip.
    let inverse := (q.den - 1) / q.num
    1 - (Nat.toDigits 10 inverse).length

/-- The shortest digits that read back as the number. -/
def shortest (b : Binary) : Digits :=
  (search b b.magnitude 18 1).getD ⟨0, 0⟩

end Binary

/-- The digits of a decimal without the zeros at their end. -/
def Digits.text (d : Digits) : List Char :=
  ((Nat.toDigits 10 d.value).reverse.dropWhile (· = '0')).reverse

end Decimal

end Subword
