import RowBinding.Number.Numeral
/-!
# Decimal numbers

A decimal is a sign, a mantissa of 96 bits and a scale, the number of its digits after the point.
The scale belongs to the value that is stored and printed, but not to the number: `1.0` and `1.00`
are different decimals and equal numbers.
-/
namespace RowBinding

/-- One more than the largest mantissa. -/
def Decimal.mantissaLimit : Nat := 2 ^ (96 : Nat)

/-- The largest scale. -/
def Decimal.maxScale : Nat := 28

/-- The number `± mantissa / 10 ^ scale`. -/
structure Decimal where
  negative : Bool
  mantissa : Nat
  scale : Nat
  mantissa_lt : mantissa < Decimal.mantissaLimit
  scale_le : scale ≤ Decimal.maxScale
  deriving DecidableEq

namespace Decimal

/-- The decimal of these parts, if they are in range.  A zero keeps its sign. -/
def signed? (negative : Bool) (mantissa scale : Nat) : Option Decimal :=
  if h : mantissa < mantissaLimit ∧ scale ≤ maxScale then
    some ⟨negative, mantissa, scale, h.1, h.2⟩
  else none

/-- The decimal of these parts, if they are in range.  A zero has no sign. -/
def ofParts? (negative : Bool) (mantissa scale : Nat) : Option Decimal :=
  signed? (negative && mantissa != 0) mantissa scale

/-- The zero without digits after the point. -/
def zero : Decimal := ⟨false, 0, 0, by decide, by decide⟩

/-- The zero with a minus sign. -/
def negativeZero : Decimal := ⟨true, 0, 0, by decide, by decide⟩

/-- The integer as a decimal of scale zero, if its magnitude is in range. -/
def ofInt? (n : Int) : Option Decimal := ofParts? (n < 0) n.natAbs 0

/-- The mantissa with the sign. -/
def signed (x : Decimal) : Int := if x.negative then -(x.mantissa : Int) else x.mantissa

/-- Equality of the numbers. -/
def numEq (x y : Decimal) : Bool := x.signed * 10 ^ y.scale == y.signed * 10 ^ x.scale

/-- Whether there is no fraction. -/
def isIntegral (x : Decimal) : Bool := x.mantissa % 10 ^ x.scale == 0

/-- The number without its fraction. -/
def truncated (x : Decimal) : Int :=
  if x.negative then -((x.mantissa / 10 ^ x.scale : Nat) : Int)
  else ((x.mantissa / 10 ^ x.scale : Nat) : Int)

/-- A hundred times the number.  A mantissa that grows too large gives up to two of its digits
after the point back, which are zeros; without them the product has no decimal. -/
def hundredfold? (x : Decimal) : Option Decimal :=
  if x.mantissa * 100 < mantissaLimit then ofParts? x.negative (x.mantissa * 100) x.scale
  else if 1 ≤ x.scale ∧ x.mantissa * 10 < mantissaLimit then
    ofParts? x.negative (x.mantissa * 10) (x.scale - 1)
  else if 2 ≤ x.scale then ofParts? x.negative x.mantissa (x.scale - 2)
  else none

/-- The digits of the mantissa, with zeros in front so that one stands before the point. -/
def paddedDigits (x : Decimal) : List Char :=
  let ds := Numeral.digits x.mantissa
  List.replicate (x.scale + 1 - ds.length) '0' ++ ds

/-- The decimal as text: its sign, and all the digits of its scale. -/
def chars (x : Decimal) : List Char :=
  let ds := x.paddedDigits
  let whole := ds.take (ds.length - x.scale)
  let fraction := ds.drop (ds.length - x.scale)
  (if x.negative then ['-'] else []) ++ whole ++ (if x.scale = 0 then [] else '.' :: fraction)

def text (x : Decimal) : String := String.ofList x.chars

end Decimal

end RowBinding
