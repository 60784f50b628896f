import RowBinding.Number.Integer
import RowBinding.Text.Basic
/-!
# Integers as text

A numeral is an optional sign followed by one or more decimal digits of ASCII.  It is read from
left to right, and the first digit that breaks a rule decides: a character that is no digit, or a
digit with which the number leaves the range of 128 bit signed integers.
-/
namespace RowBinding

/-- Why a text is no numeral. -/
inductive NumeralFault where
  | empty
  | invalidDigit
  | tooLarge
  | tooSmall
  deriving DecidableEq, Repr

def NumeralFault.message : NumeralFault → String
  | .empty => "cannot parse integer from empty string"
  | .invalidDigit => "invalid digit found in string"
  | .tooLarge => "number too large to fit in target type"
  | .tooSmall => "number too small to fit in target type"

namespace Numeral

/-- Reads digits onto `acc`; a value above `limit` is the fault `beyond`. -/
def readDigits (limit : Nat) (beyond : NumeralFault) :
    (acc : Nat) → List Char → Except NumeralFault Nat
  | acc, [] => .ok acc
  | acc, c :: cs =>
    match Text.digit? c with
    | none => .error .invalidDigit
    | some d =>
      if acc * 10 + d ≤ limit then readDigits limit beyond (acc * 10 + d) cs else .error beyond

/-- The largest magnitude of a numeral without a minus sign. -/
def largest : Nat := 2 ^ (127 : Nat) - 1

/-- The largest magnitude of a numeral with a minus sign. -/
def largestNegative : Nat := 2 ^ (127 : Nat)

/-- The integer that a numeral denotes. -/
def read : List Char → Except NumeralFault Int
  | [] => .error .empty
  | ['+'] | ['-'] => .error .invalidDigit
  | '+' :: cs => (readDigits largest .tooLarge 0 cs).map fun n => (n : Int)
  | '-' :: cs => (readDigits largestNegative .tooSmall 0 cs).map fun n => -(n : Int)
  | cs => (readDigits largest .tooLarge 0 cs).map fun n => (n : Int)

/-- The decimal digits of a natural number. -/
def digits (n : Nat) : List Char := Nat.toDigits 10 n

/-- The numeral of an integer: a minus sign if it is negative, then its digits. -/
def chars : Int → List Char
  | .ofNat n => digits n
  | .negSucc n => '-' :: digits (n + 1)

/-- The numeral of an integer as a text. -/
def text (n : Int) : String := String.ofList (chars n)

end Numeral

end RowBinding
