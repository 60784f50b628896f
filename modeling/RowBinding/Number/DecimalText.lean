import RowBinding.Number.Decimal
/-!
# Reading decimals

A decimal is written as an optional sign, digits with at most one point among or beside them, and
underscores after the first digit.  The text is read from left to right, and **the first character
that breaks a rule decides the fault**.  Digits after the point that the mantissa or the scale
cannot take are dropped, the first of them rounding what stays.  An underscore before them is
skipped if the mantissa is long; if it is short, the underscore is itself what is dropped first, and
rounds nothing.

A text that is none of this may still be a decimal with an exponent of ten.  A number so divided
that nothing of it remains keeps its sign.
-/
namespace RowBinding

/-- Why a text is no decimal. -/
inductive DecimalFault where
  | empty
  | noDigits
  | twoPoints
  | separatorFirst
  | unknownCharacter
  | tooManyDigits
  | roundedTooFar
  | malformedExponent
  | scaleTooLarge (scale : Nat)
  | tooLarge
  deriving DecidableEq, Repr

def DecimalFault.message : DecimalFault → String
  | .empty => "Invalid decimal: empty"
  | .noDigits => "Invalid decimal: no digits found"
  | .twoPoints => "Invalid decimal: two decimal points"
  | .separatorFirst => "Invalid decimal: must start lead with a number"
  | .unknownCharacter => "Invalid decimal: unknown character"
  | .tooManyDigits => "Invalid decimal: overflow from too many digits"
  | .roundedTooFar => "Invalid decimal: overflow from mantissa after rounding"
  | .malformedExponent => "Failed to parse"
  | .scaleTooLarge scale =>
    "Scale exceeds the maximum precision allowed: " ++ Numeral.text scale ++ " > " ++
      Numeral.text Decimal.maxScale
  | .tooLarge => "Number exceeds maximum value that can be represented."

namespace Decimal

/-- What has been read of a decimal. -/
structure Scan where
  mantissa : Nat
  scale : Nat
  /-- The point has been read. -/
  point : Bool
  /-- A digit has been read. -/
  digit : Bool

/-- A mantissa from here on is long: with one digit more it might need more than 64 bits. -/
def longFrom : Nat := (2 ^ (64 : Nat) - 1) / 10 - 255

/-- Whether the scale takes no more digits, and the mantissa was short before the last one. -/
def Scan.endsShort (s : Scan) : Bool := s.scale == maxScale && s.mantissa / 10 < longFrom

/-- What is dropped behind the point must still be digits and underscores. -/
def checkDropped : List Char → Except DecimalFault Unit
  | [] => .ok ()
  | c :: cs =>
    if (Text.digit? c).isSome ∨ c = '_' then checkDropped cs
    else .error (if c = '.' then .twoPoints else .unknownCharacter)

/-- The mantissa and the scale after the digit `d` was dropped: a half is rounded up, and when
this fills the mantissa the last digit goes too. -/
def rounded (mantissa scale d : Nat) : Except DecimalFault (Nat × Nat) :=
  if d < 5 then .ok (mantissa, scale)
  else if mantissa + 1 < mantissaLimit then .ok (mantissa + 1, scale)
  else if scale = 0 then .error .roundedTooFar
  else .ok ((mantissa + 1 + 4) / 10, scale - 1)

/-- Reads the characters after the sign. -/
def scan (s : Scan) : List Char → Except DecimalFault (Nat × Nat)
  | [] => if s.digit then .ok (s.mantissa, s.scale) else .error .noDigits
  | c :: cs =>
    match Text.digit? c with
    | some d =>
      let next := s.mantissa * 10 + d
      if next < mantissaLimit ∧ (s.point → s.scale < maxScale) then
        scan ⟨next, if s.point then s.scale + 1 else 0, s.point, true⟩ cs
      else if s.point then do
        let parts ← rounded s.mantissa s.scale d
        checkDropped cs
        return parts
      else .error .tooManyDigits
    | none =>
      if c = '.' then
        if s.point then .error .twoPoints else scan { s with point := true } cs
      else if c = '_' then
        if !s.digit then .error .separatorFirst
        else if s.endsShort then do
          checkDropped cs
          return (s.mantissa, s.scale)
        else scan s cs
      else .error .unknownCharacter

/-- The decimal of these parts, or the fault that there is none. -/
def ofParts (negative : Bool) (mantissa scale : Nat) : Except DecimalFault Decimal :=
  match ofParts? negative mantissa scale with
  | some x => .ok x
  | none => .error .tooLarge

/-- Reads a decimal without exponent. -/
def readPlain (cs : List Char) : Except DecimalFault Decimal :=
  let start : Scan := ⟨0, 0, false, false⟩
  match cs with
  | [] => .error .empty
  | '-' :: rest => do
    let (m, s) ← scan start rest
    ofParts true m s
  | '+' :: rest => do
    let (m, s) ← scan start rest
    ofParts false m s
  | _ => do
    let (m, s) ← scan start cs
    ofParts false m s

/-- The mantissa of the number with only this many digits after the point, a half rounded up. -/
def mantissaAt (x : Decimal) (scale : Nat) : Nat :=
  let unit := 10 ^ (x.scale - scale)
  if x.scale ≤ scale then x.mantissa else (2 * x.mantissa + unit) / (2 * unit)

/-- The largest exponent that is read at all. -/
def exponentLimit : Nat := 2 ^ (32 : Nat) - 1

/-- The size of an exponent: digits, which a plus sign may precede. -/
def readExponent (cs : List Char) : Except DecimalFault Nat :=
  let ds := if cs.head? = some '+' then cs.drop 1 else cs
  if ds.isEmpty then .error .malformedExponent
  else match Numeral.readDigits exponentLimit .tooLarge 0 ds with
    | .ok n => .ok n
    | .error _ => .error .malformedExponent

/-- The number divided by `10 ^ e`, with as many of its digits as the scale allows. -/
def scaledDown (x : Decimal) (e : Nat) : Except DecimalFault Decimal :=
  if maxScale < e then .error (.scaleTooLarge e)
  else
    match signed? x.negative (x.mantissaAt (maxScale - e)) (min x.scale (maxScale - e) + e) with
    | some y => .ok y
    | none => .error .tooLarge

/-- The number multiplied by `10 ^ e`. -/
def scaledUp (x : Decimal) (e : Nat) : Except DecimalFault Decimal :=
  if e ≤ x.scale then ofParts x.negative x.mantissa (x.scale - e)
  else if maxScale < e then .error (.scaleTooLarge e)
  else ofParts x.negative (x.mantissa * 10 ^ (e - x.scale)) 0

/-- The letter that introduces an exponent. -/
def isExponentMark (c : Char) : Bool := c == 'e' || c == 'E'

/-- Reads a decimal with exponent. -/
def readScientific (cs : List Char) : Except DecimalFault Decimal := do
  let base ← readPlain (cs.takeWhile (!isExponentMark ·))
  match (cs.dropWhile (!isExponentMark ·)).drop 1 with
  | '-' :: ds => base.scaledDown (← readExponent ds)
  | ds => base.scaledUp (← readExponent ds)

/-- Reads a decimal; one with an exponent is tried when it is none without. -/
def read (cs : List Char) : Except DecimalFault Decimal :=
  match readPlain cs with
  | .ok x => .ok x
  | .error fault => if cs.any isExponentMark then readScientific cs else .error fault

end Decimal

end RowBinding
