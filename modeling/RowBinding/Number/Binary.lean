import RowBinding.Number.Integer
/-!
# Binary floating point numbers

A finite number is a sign, a significand and a power of two; the two widths differ only in how
many bits the significand has and how far the exponent reaches.  The pair is **canonical**: the
significand fills its bits unless the exponent is the smallest one, so that every number has one
representation and equality of representations is equality of numbers, the two zeros apart.
-/
namespace RowBinding

/-- The two widths of floating point numbers: 32 and 64 bits. -/
inductive FloatWidth where
  | single | double
  deriving DecidableEq, Repr

namespace FloatWidth

/-- The bits of a significand. -/
def precision : FloatWidth → Nat
  | single => 24
  | double => 53

/-- The bits of the exponent field in the stored form. -/
def exponentBits : FloatWidth → Nat
  | single => 8
  | double => 11

/-- The exponent of the smallest numbers, of which each significand counts one unit. -/
def minExponent : FloatWidth → Int
  | single => -149
  | double => -1074

/-- The exponent of the largest numbers. -/
def maxExponent : FloatWidth → Int
  | single => 104
  | double => 971

/-- `m * 2 ^ q` is written with its one canonical significand and exponent. -/
def Canonical (w : FloatWidth) (m : Nat) (q : Int) : Prop :=
  m < 2 ^ w.precision ∧ w.minExponent ≤ q ∧ q ≤ w.maxExponent ∧
    (m < 2 ^ (w.precision - 1) → q = w.minExponent)

instance (w : FloatWidth) (m : Nat) (q : Int) : Decidable (w.Canonical m q) :=
  inferInstanceAs (Decidable (_ ∧ _ ∧ _ ∧ _))

theorem canonical_zero (w : FloatWidth) : w.Canonical 0 w.minExponent := by
  cases w <;> decide

end FloatWidth

/-- A floating point number of one width. -/
inductive Binary (w : FloatWidth) where
  | nan
  | infinite (negative : Bool)
  | finite (negative : Bool) (m : Nat) (q : Int) (canonical : w.Canonical m q)
  deriving DecidableEq

namespace Binary

variable {w : FloatWidth}

/-- The zero of either sign. -/
def zero (negative : Bool) : Binary w := .finite negative 0 w.minExponent w.canonical_zero

/-- The number `m * 2 ^ q` with a sign.  A pair that is not canonical here is one whose exponent
is above the largest, and stands for the infinity. -/
def ofParts (negative : Bool) (m : Nat) (q : Int) : Binary w :=
  if h : w.Canonical m q then .finite negative m q h else .infinite negative

def isFinite : Binary w → Bool
  | .finite .. => true
  | _ => false

def isInfinite : Binary w → Bool
  | .infinite _ => true
  | _ => false

/-- Whether the number is a zero; the one that is no number is not. -/
def isZero : Binary w → Bool
  | .finite _ m _ _ => m == 0
  | _ => false

/-- Equality of numbers: the two zeros are equal, and what is no number equals nothing. -/
def numEq : Binary w → Binary w → Bool
  | .nan, _ | _, .nan => false
  | .infinite s, .infinite t => s == t
  | .finite s m q _, .finite t n r _ => (m == 0 && n == 0) || (s == t && m == n && q == r)
  | _, _ => false

/-- `n * 2 ^ q` as a quotient of natural numbers. -/
def scaled (n : Nat) (q : Int) : Nat × Nat := (n * 2 ^ q.toNat, 2 ^ (-q).toNat)

/-- The number without its fraction, if it is finite. -/
def truncated? : Binary w → Option Int
  | .finite negative m q _ =>
    let (num, den) := scaled m q
    some (if negative then -((num / den : Nat) : Int) else ((num / den : Nat) : Int))
  | _ => none

/-- Whether a finite number has no fraction. -/
def isIntegral : Binary w → Bool
  | .finite _ m q _ => let (num, den) := scaled m q; num % den == 0
  | _ => false

/-! ## The stored form

From the highest bit down: the sign, the exponent field, and the significand without its leading
bit.  The field zero holds the numbers of the smallest exponent whose significand does not reach
that bit, the field of all ones holds the infinities and what is no number. -/

/-- The significand's bits in the stored form. -/
def fractionSize (w : FloatWidth) : Nat := 2 ^ (w.precision - 1)

/-- The value of the exponent field that no finite number has. -/
def reservedField (w : FloatWidth) : Nat := 2 ^ w.exponentBits - 1

/-- The number stored as `bits`. -/
def ofBits (w : FloatWidth) (bits : Nat) : Binary w :=
  let fraction := bits % fractionSize w
  let field := bits / fractionSize w % 2 ^ w.exponentBits
  let negative := bits / fractionSize w / 2 ^ w.exponentBits % 2 == 1
  if field = reservedField w then
    if fraction = 0 then .infinite negative else .nan
  else if field = 0 then ofParts negative fraction w.minExponent
  else ofParts negative (fractionSize w + fraction) (w.minExponent + field - 1)

/-- The stored form of a number; what is no number is stored with the highest fraction bit. -/
def toBits (x : Binary w) : Nat :=
  let sign (negative : Bool) : Nat :=
    if negative then 2 ^ w.exponentBits * fractionSize w else 0
  match x with
  | .nan => reservedField w * fractionSize w + fractionSize w / 2
  | .infinite negative => sign negative + reservedField w * fractionSize w
  | .finite negative m q _ =>
    if m < fractionSize w then sign negative + m
    else sign negative + ((q - w.minExponent + 1).toNat * fractionSize w + (m - fractionSize w))

end Binary

end RowBinding
