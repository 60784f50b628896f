import RowBinding.Number.Binary
import RowBinding.Number.Numeral
/-!
# The fewest digits that read back

A floating point number stands for all the real numbers that round to it.  It is printed with the
fewest decimal digits that fall among them; of several such decimals the nearest one to the number
is taken, and of two that are equally near the larger.

The search goes over decimal grids from the coarsest to the finest.  On one grid only the two
neighbours of the number matter: if any point of the grid lies in the interval, so does one of
them.
-/
namespace RowBinding

/-- The interval of the numbers that round to `value`: numerators over one denominator. -/
structure RoundingInterval where
  low : Nat
  value : Nat
  high : Nat
  den : Nat
  /-- Whether the ends belong to the interval. -/
  closed : Bool

namespace RoundingInterval

/-- The interval around the magnitude `m * 2 ^ q`: half a unit to both sides, but only a quarter
below a power of two, where the units below are half as large.  The ends round to an even
significand. -/
def ofParts (w : FloatWidth) (m : Nat) (q : Int) : RoundingInterval :=
  let (unit, den) := Binary.scaled 1 (q - 2)
  let below := if m = 2 ^ (w.precision - 1) ∧ w.minExponent < q then 1 else 2
  ⟨(4 * m - below) * unit, 4 * m * unit, (4 * m + 2) * unit, den, m % 2 == 0⟩

/-- Whether `d * 10 ^ e` lies in the interval. -/
def holds (i : RoundingInterval) (d : Nat) (e : Int) : Bool :=
  let point := d * 10 ^ e.toNat * i.den
  let low := i.low * 10 ^ (-e).toNat
  let high := i.high * 10 ^ (-e).toNat
  (low < point && point < high) || (i.closed && (low == point || point == high))

/-- The nearest `d` such that `d * 10 ^ e` lies in the interval. -/
def onGrid? (i : RoundingInterval) (e : Int) : Option Nat :=
  let num := i.value * 10 ^ (-e).toNat
  let den := i.den * 10 ^ e.toNat
  let d := num / den
  match i.holds d e, i.holds (d + 1) e with
  | true, true => some (if num - d * den < (d + 1) * den - num then d else d + 1)
  | true, false => some d
  | false, true => some (d + 1)
  | false, false => none

/-- The coarsest of `fuel` grids from `10 ^ e` on that meets the interval. -/
def search (i : RoundingInterval) : (fuel : Nat) → (e : Int) → Nat × Int
  | 0, e => (i.value * 10 ^ (-e).toNat / (i.den * 10 ^ e.toNat), e)
  | fuel + 1, e =>
    match i.onGrid? e with
    | some d => (d, e)
    | none => i.search fuel (e - 1)

end RoundingInterval

/-- The `k` with `10 ^ (k - 1) ≤ num / den < 10 ^ k`, for positive numbers. -/
def decimalPoint (num den : Nat) : Int :=
  if den ≤ num then (Numeral.digits (num / den)).length
  else
    let size := (Numeral.digits (den / num)).length
    if den = num * 10 ^ (size - 1) then 2 - size else 1 - size

/-- Decimal digits with the place of the point: `point` digits stand before it, where a negative
count means zeros after it. -/
structure DecimalDigits where
  digits : List Char
  point : Int

/-- Seventeen digits tell any two numbers of either width apart. -/
def enoughDigits : Nat := 17

/-- The fewest digits that read back as the magnitude `m * 2 ^ q`. -/
def shortestDigits (w : FloatWidth) (m : Nat) (q : Int) : DecimalDigits :=
  let i := RoundingInterval.ofParts w m q
  let (d, e) := i.search enoughDigits (decimalPoint i.value i.den - 1)
  let ds := Numeral.digits d
  ⟨(ds.reverse.dropWhile (· == '0')).reverse, ds.length + e⟩

namespace DecimalDigits

/-- Without an exponent, and without a point after an integer. -/
def positional (x : DecimalDigits) : List Char :=
  if x.point ≤ 0 then '0' :: '.' :: List.replicate (-x.point).toNat '0' ++ x.digits
  else if x.digits.length ≤ x.point then
    x.digits ++ List.replicate (x.point - x.digits.length).toNat '0'
  else x.digits.take x.point.toNat ++ '.' :: x.digits.drop x.point.toNat

/-- Whether the positional form shows an integer. -/
def isIntegral (x : DecimalDigits) : Bool := x.digits.length ≤ x.point

/-- One digit before the point and a power of ten. -/
def scientific (x : DecimalDigits) : List Char :=
  let mantissa :=
    match x.digits with
    | [] => []
    | [d] => [d]
    | d :: ds => d :: '.' :: ds
  mantissa ++ 'e' :: Numeral.chars (x.point - 1)

end DecimalDigits

end RowBinding
