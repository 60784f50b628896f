import RowBinding.Number.Binary
/-!
# Rounding to a floating point number

**Every operation on floating point numbers here is the exact one on quotients of natural numbers
followed by one rounding**, to the nearest number of the width, and of two that are equally near
to the one with the even significand.  What is too large for the width becomes an infinity.
-/
namespace RowBinding

/-- The natural number nearest to `num / den`, the even one of two. -/
def roundHalfEven (num den : Nat) : Nat :=
  let r := num % den
  if 2 * r < den then num / den
  else if den < 2 * r then num / den + 1
  else num / den + num / den % 2

/-- The largest `e` with `2 ^ e ≤ num / den`, for positive numbers. -/
def floorLog2 (num den : Nat) : Int :=
  let e : Int := (Nat.log2 num : Int) - (Nat.log2 den : Int)
  if den * 2 ^ e.toNat ≤ num * 2 ^ (-e).toNat then e else e - 1

namespace Binary

variable {w : FloatWidth}

/-- The number of width `w` nearest to `num / den`. -/
def ofRatio (w : FloatWidth) (negative : Bool) (num den : Nat) : Binary w :=
  if num = 0 then zero negative
  else
    let q := max w.minExponent (floorLog2 num den - (w.precision - 1))
    let m := roundHalfEven (num * 2 ^ (-q).toNat) (den * 2 ^ q.toNat)
    if m = 2 ^ w.precision then ofParts negative (2 ^ (w.precision - 1)) (q + 1)
    else ofParts negative m q

/-- The number nearest to an integer. -/
def ofInt (w : FloatWidth) (n : Int) : Binary w := ofRatio w (n < 0) n.natAbs 1

/-- The number of another width nearest to a number. -/
def toWidth (v : FloatWidth) : Binary w → Binary v
  | .nan => .nan
  | .infinite negative => .infinite negative
  | .finite negative m q _ => let (num, den) := scaled m q; ofRatio v negative num den

/-- The same number with the sign set. -/
def withSign (negative : Bool) : Binary w → Binary w
  | .nan => .nan
  | .infinite _ => .infinite negative
  | .finite _ m q h => .finite negative m q h

/-! ## Arithmetic on magnitudes

The signs of the operands are ignored, and an operand that is not finite gives no number: the
conversions below use these operations only on finite numbers that are not negative. -/

/-- The magnitude of a finite number as a quotient. -/
def magnitude : Binary w → Nat × Nat
  | .finite _ m q _ => scaled m q
  | _ => (0, 0)

def addMagnitude (a b : Binary w) : Binary w :=
  ofRatio w false (a.magnitude.1 * b.magnitude.2 + b.magnitude.1 * a.magnitude.2)
    (a.magnitude.2 * b.magnitude.2)

def mulMagnitude (a b : Binary w) : Binary w :=
  ofRatio w false (a.magnitude.1 * b.magnitude.1) (a.magnitude.2 * b.magnitude.2)

def divMagnitude (a b : Binary w) : Binary w :=
  ofRatio w false (a.magnitude.1 * b.magnitude.2) (a.magnitude.2 * b.magnitude.1)

/-- The nearest integer, a half going away from zero. -/
def roundMagnitude (a : Binary w) : Binary w :=
  ofRatio w false ((2 * a.magnitude.1 + a.magnitude.2) / (2 * a.magnitude.2)) 1

end Binary

end RowBinding
