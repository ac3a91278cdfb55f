import Subword.Decimal.Shortest

/-!
# Numbers as text

Double-precision numbers in the form in which messages and documents show them:
the shortest digits that read back, written positionally when the first digit
stands between the fifth place behind the point and the sixteenth before it,
and with an exponent otherwise. A whole number keeps one zero behind its point,
which tells it from an integer.

Reading goes the other way and rounds to the nearest double. Exponents far
beyond the range of doubles are cut short first: what they stand for is zero or
infinite whatever the exact value.

## Main definitions

* `ofFloat`: The text of a number.
* `toFloat`: The number nearest to a decimal.
* `inRange`: The integers for which there is a number.
* `bits`: The sixteen hexadecimal digits of a number's bit pattern.
-/

namespace Subword

namespace Decimal

/-- How numbers are laid out. -/
structure Layout where
  /-- The least exponent of the first digit at which the number is written positionally. -/
  least : Int
  /-- The greatest such exponent. -/
  greatest : Int
  /-- The least number of digits of an exponent. -/
  exponentWidth : Nat

/-- Positional from one ten-thousandth up to sixteen digits; exponents have two digits. -/
def layout : Layout := ⟨-4, 15, 2⟩

/-- A positive finite number in binary, from the two fields of its bit pattern. -/
def binaryOf (biased fraction : Nat) : Binary :=
  if biased = 0 then ⟨fraction, -1074, false⟩
  else ⟨Nat.pow 2 52 + fraction, (biased : Int) - 1075, fraction = 0 && 1 < biased⟩

/-- An exponent with its sign, filled up with zeros. -/
def exponentText (layout : Layout) (exponent : Int) : List Char :=
  let digits := Nat.toDigits 10 exponent.natAbs
  'e' :: (if exponent < 0 then '-' else '+') ::
    List.replicate (layout.exponentWidth - digits.length) '0' ++ digits

/-- Digits laid out around their point. -/
def place (layout : Layout) (digits : List Char) (point : Int) : List Char :=
  let exponent := point - 1
  if layout.least ≤ exponent && exponent ≤ layout.greatest then
    if point ≤ 0 then '0' :: '.' :: List.replicate (-point).toNat '0' ++ digits
    else
      let whole := digits.take point.toNat
      let rest := digits.drop point.toNat
      whole ++ List.replicate (point.toNat - digits.length) '0' ++
        '.' :: (if rest.isEmpty then ['0'] else rest)
  else
    match digits with
    | [] => []
    | [d] => d :: exponentText layout exponent
    | d :: rest => d :: '.' :: rest ++ exponentText layout exponent

/-- The text of a number. -/
def ofFloat (x : Float) : String :=
  let pattern := x.toBits.toNat
  let negative := pattern / Nat.pow 2 63 = 1
  let biased := pattern / Nat.pow 2 52 % 2048
  let fraction := pattern % Nat.pow 2 52
  if biased = 2047 then
    if fraction ≠ 0 then "nan" else if negative then "-inf" else "inf"
  else
    let digits :=
      if biased = 0 && fraction = 0 then ['0', '.', '0']
      else
        let shortest := (binaryOf biased fraction).shortest
        place layout shortest.text shortest.point
    String.ofList (if negative then '-' :: digits else digits)

/-- The number nearest to `value · 10 ^ exponent`, or to its negative. -/
def toFloat (negative : Bool) (value : Nat) (exponent : Int) : Float :=
  let digits : Int := (Nat.toDigits 10 value).length
  let magnitude :=
    if value = 0 || digits + exponent < -400 then 0.0
    else if 400 < digits + exponent then 1.0 / 0.0
    else if 0 ≤ exponent then Float.ofScientific value false exponent.toNat
    else Float.ofScientific value true (-exponent).toNat
  if negative then -magnitude else magnitude

/-- The number nearest to an integer. -/
def ofInt (n : Int) : Float :=
  toFloat (n < 0) n.natAbs 0

/-- The least integer that is nearer to the power of two above all doubles than to any of these,
    or as near: half of a last place below that power. -/
def beyondRange : Nat := Nat.pow 2 1024 - Nat.pow 2 970

/-- Whether there is a double for an integer. -/
def inRange (n : Int) : Bool :=
  n.natAbs < beyondRange

/-- The most digits with which an integer is converted from its text. -/
def mostDigits : Nat := 4300

/-- The sixteen hexadecimal digits of a number's bit pattern. -/
def bits (x : Float) : String :=
  let digits := Nat.toDigits 16 x.toBits.toNat
  String.ofList (List.replicate (16 - digits.length) '0' ++ digits)

/-- The whole number that a number and its exponent spell when it has no fraction. -/
def toInt? (x : Float) : Option Int :=
  let pattern := x.toBits.toNat
  let biased := pattern / Nat.pow 2 52 % 2048
  let fraction := pattern % Nat.pow 2 52
  if biased = 2047 then none
  else
    let b := binaryOf biased fraction
    let magnitude : Option Nat :=
      if 0 ≤ b.exponent then some (b.mantissa * Nat.pow 2 b.exponent.toNat)
      else if b.mantissa % Nat.pow 2 (-b.exponent).toNat = 0 then
        some (b.mantissa / Nat.pow 2 (-b.exponent).toNat)
      else none
    magnitude.map fun m => if pattern / Nat.pow 2 63 = 1 then -(m : Int) else m

/-- The whole part of a finite number that is not negative. -/
def wholePart (x : Float) : Nat :=
  let pattern := x.toBits.toNat
  let b := binaryOf (pattern / Nat.pow 2 52 % 2048) (pattern % Nat.pow 2 52)
  if 0 ≤ b.exponent then b.mantissa * Nat.pow 2 b.exponent.toNat
  else b.mantissa / Nat.pow 2 (-b.exponent).toNat

end Decimal

end Subword
