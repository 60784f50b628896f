import RowBinding.Number.Rounding
import RowBinding.Number.Shortest
/-!
# Floating point numbers as text

As text a number has the fewest digits that read back in its own width and never an exponent.
Shown as data it keeps a fraction, `1.0`, and takes an exponent when its magnitude reaches `1e16`
or falls below `1e-4`.  Reading takes decimal digits with an optional point and an optional
exponent, or one of the words for what is no finite number, and rounds once.
-/
namespace RowBinding

/-- Why a text is no floating point number. -/
inductive FloatFault where
  | empty
  | invalid
  deriving DecidableEq, Repr

def FloatFault.message : FloatFault → String
  | .empty => "cannot parse float from empty string"
  | .invalid => "invalid float literal"

namespace Binary

variable {w : FloatWidth}

/-- The characters of a sign. -/
def signChars (negative : Bool) : List Char := if negative then ['-'] else []

/-! ## Writing -/

/-- The number as text. -/
def text : Binary w → String
  | .nan => "NaN"
  | .infinite negative => String.ofList (signChars negative ++ ['i', 'n', 'f'])
  | .finite negative m q _ =>
    String.ofList (signChars negative ++
      if m = 0 then ['0'] else (shortestDigits w m q).positional)

/-- The magnitude shown as data. -/
def outlineChars (x : DecimalDigits) : List Char :=
  if 16 < x.point ∨ x.point < -3 then x.scientific
  else if x.isIntegral then x.positional ++ ['.', '0']
  else x.positional

/-- The number shown as data. -/
def outline : Binary w → String
  | .finite negative m q _ =>
    String.ofList (signChars negative ++
      if m = 0 then ['0', '.', '0'] else outlineChars (shortestDigits w m q))
  | x => x.text

/-! ## Reading -/

/-- The value of decimal digits. -/
def ofDigits (ds : List Char) : Nat :=
  ds.foldl (fun n c => n * 10 + (Text.digit? c).getD 0) 0

def isDigit (c : Char) : Bool := (Text.digit? c).isSome

/-- The optional exponent at the end of a number. -/
def readExponent : List Char → Option Int
  | [] => some 0
  | c :: cs =>
    if c = 'e' ∨ c = 'E' then
      let (negative, ds) :=
        match cs with
        | '-' :: ds => (true, ds)
        | '+' :: ds => (false, ds)
        | ds => (false, ds)
      if ds.isEmpty ∨ ¬ ds.all isDigit then none
      else some (if negative then -(ofDigits ds : Int) else ofDigits ds)
    else none

/-- Decimal exponents beyond this are too large, or too small, for either width. -/
def farthestPoint : Int := 400

/-- The number nearest to `digits * 10 ^ e`. -/
def ofDecimal (w : FloatWidth) (negative : Bool) (digits : Nat) (e : Int) : Binary w :=
  if digits = 0 then zero negative
  else
    let point : Int := (Numeral.digits digits).length + e
    if farthestPoint < point then .infinite negative
    else if point < -farthestPoint then zero negative
    else ofRatio w negative (digits * 10 ^ e.toNat) (10 ^ (-e).toNat)

/-- Reads a magnitude written with digits. -/
def readDigits (w : FloatWidth) (negative : Bool) (cs : List Char) : Option (Binary w) :=
  let whole := cs.takeWhile isDigit
  let (fraction, rest) :=
    match cs.dropWhile isDigit with
    | '.' :: rest => (rest.takeWhile isDigit, rest.dropWhile isDigit)
    | rest => ([], rest)
  if whole.isEmpty ∧ fraction.isEmpty then none
  else do
    let e ← readExponent rest
    return ofDecimal w negative (ofDigits (whole ++ fraction)) (e - fraction.length)

/-- Reads a magnitude. -/
def readMagnitude (w : FloatWidth) (negative : Bool) (cs : List Char) : Option (Binary w) :=
  let word := String.ofList (cs.map Char.toLower)
  if word == "inf" || word == "infinity" then some (.infinite negative)
  else if word == "nan" then some .nan
  else readDigits w negative cs

/-- Reads a number. -/
def read (w : FloatWidth) (cs : List Char) : Except FloatFault (Binary w) :=
  let number? :=
    match cs with
    | '-' :: rest => readMagnitude w true rest
    | '+' :: rest => readMagnitude w false rest
    | _ => readMagnitude w false cs
  match cs, number? with
  | [], _ => .error .empty
  | _, none => .error .invalid
  | _, some x => .ok x

end Binary

end RowBinding
