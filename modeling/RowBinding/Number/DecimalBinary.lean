import RowBinding.Number.Decimal
import RowBinding.Number.Rounding
/-!
# Decimals and floating point numbers

From a decimal to a floating point number the whole part and the fraction are converted apart and
the sum is rounded once more to the decimal's own scale, so that `0.1` and the like come out as the
number nearest to them.

In the other direction the binary number `m * 2 ^ q` becomes `m * 10 ^ e` step by step: factors of
two are exchanged for factors of five while the mantissa has room, then digits that carry no
information are rounded off.
-/
namespace RowBinding

namespace Decimal

/-! ## To a floating point number -/

/-- A natural number as a floating point number of 64 bits. -/
def doubleOfNat (n : Nat) : Binary .double := Binary.ofRatio .double false n 1

/-- The magnitude as a floating point number of 64 bits. -/
def doubleMagnitude (x : Decimal) : Binary .double :=
  if x.scale = 0 then doubleOfNat x.mantissa
  else
    let unit := doubleOfNat (10 ^ x.scale)
    let whole := doubleOfNat (x.mantissa / 10 ^ x.scale)
    let fraction := (doubleOfNat (x.mantissa % 10 ^ x.scale)).divMagnitude unit
    if fraction.isZero then whole
    else (((whole.addMagnitude fraction).mulMagnitude unit).roundMagnitude).divMagnitude unit

/-- The number as a floating point number of 64 bits.  An integer has no signed zero. -/
def toDouble (x : Decimal) : Binary .double :=
  x.doubleMagnitude.withSign (x.negative && !(x.scale == 0 && x.mantissa == 0))

/-- The number as a floating point number of 32 bits, by way of 64 bits. -/
def toSingle (x : Decimal) : Binary .single := x.toDouble.toWidth .single

/-! ## From a floating point number -/

/-- Exchanges `n` factors `1 / 2` for factors `5 / 10`: an even mantissa is halved instead, and so
is one that has no room for the five. -/
def tradeHalves : (n : Nat) → (m : Nat) → (e : Int) → Nat × Int
  | 0, m, e => (m, e)
  | n + 1, m, e =>
    if m % 2 = 0 then tradeHalves n (m / 2) (e + 1)
    else if m * 5 < mantissaLimit then tradeHalves n (m * 5) e
    else tradeHalves n (m / 2) (e + 1)

/-- Exchanges `n` factors two for factors `10 / 5`: the mantissa is doubled while it has room and
then divided by five. -/
def tradeDoubles : (n : Nat) → (m : Nat) → (e : Int) → Option (Nat × Int)
  | 0, m, e => some (m, e)
  | n + 1, m, e =>
    if 2 * m < mantissaLimit then tradeDoubles n (2 * m) (e - 1)
    else if e * 2 > n + 1 then none
    else tradeDoubles n (m / 5) e

/-- The mantissa times `10 ^ n`, if it has room. -/
def raised : (n : Nat) → (m : Nat) → Option Nat
  | 0, m => some m
  | n + 1, m => if m * 10 < mantissaLimit then raised n (m * 10) else none

/-- Drops the last digit, a half rounded up. -/
def withoutDigit (m : Nat) : Nat := if m % 10 ≥ 5 then m / 10 + 1 else m / 10

/-- Drops `n` digits one by one.  A mantissa that has become zero needs no scale any more. -/
def dropDigits (scale : Nat) : (n : Nat) → (m : Nat) → Nat × Nat
  | 0, m => (m, scale)
  | n + 1, m => if m / 10 = 0 then (0, 0) else dropDigits scale n (withoutDigit m)

/-- The mantissas below this carry all the digits of a floating point number. -/
def significantLimit : Nat := 2 ^ (52 : Nat)

/-- Drops digits after the point while the mantissa has more than a floating point number has. -/
def dropInsignificant : (scale : Nat) → (m : Nat) → Nat × Nat
  | 0, m => (m, 0)
  | scale + 1, m =>
    if significantLimit ≤ m then dropInsignificant scale (withoutDigit m) else (m, scale + 1)

/-- Drops the zeros at the end of the fraction. -/
def dropZeros : (scale : Nat) → (m : Nat) → Nat × Nat
  | 0, m => (m, 0)
  | scale + 1, m => if m % 10 = 0 then dropZeros scale (m / 10) else (m, scale + 1)

/-- The mantissa and the scale of `m * 10 ^ e`. -/
def settled (m : Nat) (e : Int) : Option (Nat × Nat) := do
  let m ← raised e.toNat m
  let scale := (-e).toNat
  let (m, scale) :=
    if maxScale < scale then dropDigits maxScale (scale - maxScale) m else (m, scale)
  let (m, scale) := dropInsignificant scale m
  return dropZeros scale m

/-- The decimal of the magnitude `m * 2 ^ q` with a sign, also where nothing of it remains. -/
def ofBinaryParts? (negative : Bool) (m : Nat) (q : Int) : Option Decimal := do
  let (m, e) ← if q < 0 then some (tradeHalves (-q).toNat m q) else tradeDoubles q.toNat m q
  let (m, scale) ← settled m e
  signed? negative m scale

/-- The decimal of a floating point number, if it is finite and not too large.  A zero keeps its
sign. -/
def ofDouble? : Binary .double → Option Decimal
  | .finite negative m q _ =>
    if m = 0 then some (if negative then negativeZero else zero) else ofBinaryParts? negative m q
  | _ => none

end Decimal

end RowBinding
