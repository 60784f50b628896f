import RowBinding.Failure
import RowBinding.Number.DecimalBinary
/-!
# Cast and convert

There are two ways from one type to another.  A **cast** takes the number as it is: integers are
reduced modulo the width of the target, floats lose their fraction, and what is no number must
already have the type.  A **conversion** checks: a number must fit, a text is read, dates and times
change their representation, and every value becomes text.

Both leave a value of the target type alone and turn every NULL into the NULL of the target type.
-/
namespace RowBinding

namespace Binary

/-- The range of 128 bit signed integers. -/
def widest : Int := 2 ^ (127 : Nat) - 1
def narrowest : Int := -2 ^ (127 : Nat)

/-- The number without its fraction, the nearest end of the range when it lies outside, and zero
when it is no number. -/
def saturated {w : FloatWidth} : Binary w → Int
  | .nan => 0
  | .infinite negative => if negative then narrowest else widest
  | x => max narrowest (min widest (x.truncated?.getD 0))

end Binary

namespace Datum

/-- The number that a datum stands for: a truth value is zero or one, an enumeration its
discriminant. -/
def number? : Datum → Option Number
  | boolean b => some (.integer (if b then 1 else 0))
  | integer _ n => some (.integer n.toInt)
  | float _ x => some (.float (x.toWidth .double))
  | decimal x => some (.decimal x)
  | enumeration _ n => some (.integer n.toInt)
  | _ => none

/-! ## Cast -/

/-- An integer as a value of another type, reduced modulo the type's width. -/
def ofWrapped? (target : ValueType) (n : Int) : Option Datum :=
  match target with
  | .boolean => some (boolean (n != 0))
  | .integer k => some (integer k (.wrapped k n))
  | .float w => some (float w (.ofInt w n))
  | .decimal => (Decimal.ofInt? n).map decimal
  | .enumeration e => some (enumeration e (.wrapped .int64 n))
  | _ => none

/-- A number as a value of another type, taken as it is. -/
def ofNumber? (target : ValueType) : Number → Option Datum
  | .integer n => ofWrapped? target n
  | .float x =>
    match target with
    | .float w => some (float w (x.toWidth w))
    | .decimal => (Decimal.ofDouble? x).map decimal
    | _ => ofWrapped? target x.saturated
  | .decimal x =>
    match target with
    | .float .single => some (float .single x.toSingle)
    | .float .double => some (float .double x.toDouble)
    | _ => ofWrapped? target x.truncated

/-- The plain cast to a type. -/
def cast (d : Datum) (target : ValueType) : Result Datum :=
  if d.type = target then .ok d
  else
    match d.number?.bind (ofNumber? target) with
    | some r => .ok r
    | none => .error (.value (.noConversion d target))

/-! ## Checked numbers -/

/-- An integer as a value of a type that has it; `none` when the type has no numbers. -/
def ofChecked (target : ValueType) (n : Int) : Except ValueFault (Option Datum) :=
  match target with
  | .boolean => .ok (some (boolean (n != 0)))
  | .integer k =>
    match Bounded.ofInt? k n with
    | some b => .ok (some (integer k b))
    | none => .error (.outOfRange (.integer n) target)
  | .float w => .ok (some (float w (.ofInt w n)))
  | .decimal =>
    match Decimal.ofInt? n with
    | some x => .ok (some (decimal x))
    | none => .error (.noDecimal n)
  | .enumeration e =>
    match Bounded.ofInt? .int64 n with
    | some b =>
      if e.contains b.toInt then .ok (some (enumeration e b)) else .error (.undefinedVariant n e)
    | none => .error (.undefinedVariant n e)
  | _ => .ok none

/-- A float as a value of a type that has it. -/
def ofCheckedFloat (target : ValueType) (x : Binary .double) : Except ValueFault (Option Datum) :=
  match target with
  | .float .double => .ok (some (float .double x))
  | .float .single =>
    let y := x.toWidth .single
    if x.isFinite && y.isInfinite then .error (.outOfRange (.float x) target)
    else .ok (some (float .single y))
  | .decimal => .ok ((Decimal.ofDouble? x).map decimal)
  | .boolean => .ok (some (boolean (!x.isZero)))
  | _ =>
    if x.isIntegral then ofChecked target x.saturated else .error (.notIntegral (.float x) target)

/-- A decimal as a value of a type that has it. -/
def ofCheckedDecimal (target : ValueType) (x : Decimal) : Except ValueFault (Option Datum) :=
  match target with
  | .float .single => .ok (some (float .single x.toSingle))
  | .float .double => .ok (some (float .double x.toDouble))
  | _ =>
    if x.isIntegral then ofChecked target x.truncated
    else .error (.notIntegral (.decimal x) target)

/-- A number as a value of a type that has it. -/
def ofCheckedNumber (target : ValueType) : Number → Except ValueFault (Option Datum)
  | .integer n => ofChecked target n
  | .float x => ofCheckedFloat target x
  | .decimal x => ofCheckedDecimal target x

/-! ## Reading text -/

/-- The truth values as text: their words, the first letters of these, and one and zero. -/
def readBoolean (trimmed : List Char) : Option Bool :=
  let word := String.ofList trimmed
  if Text.sameName word "true" || Text.sameName word "t" || word == "1" then some true
  else if Text.sameName word "false" || Text.sameName word "f" || word == "0" then some false
  else none

/-- A numeral as a value of an integer type or an enumeration. -/
def readInteger (text : String) (target : ValueType) : Except ValueFault Datum :=
  match Numeral.read (Text.trimmed text) with
  | .error fault => .error (.unreadable text target (some (.numeral fault)))
  | .ok n => do
    match ← ofChecked target n with
    | some d => return d
    | none => throw (.unreadable text target none)

/-- What a text denotes, or why it denotes nothing. -/
def readWith {ε α : Type} (text : String) (target : ValueType) (fault : ε → TextFault)
    (datum : α → Datum) : Except ε α → Except ValueFault Datum
  | .ok a => .ok (datum a)
  | .error e => .error (.unreadable text target (some (fault e)))

/-- Reads a text as a value of a type.  A name of a variant counts before a numeral. -/
def read (text : String) (target : ValueType) : Except ValueFault Datum :=
  let trimmed := Text.trimmed text
  match target with
  | .boolean =>
    match readBoolean trimmed with
    | some b => .ok (boolean b)
    | none => .error (.unreadable text target none)
  | .integer _ => readInteger text target
  | .float w => readWith text target .float (float w) (Binary.read w trimmed)
  | .decimal => readWith text target .decimal decimal (Decimal.read trimmed)
  | .varchar => .ok (varchar text)
  | .blob => .ok (blob (Text.utf8 text))
  | .date => readWith text target .calendar date (Date.read trimmed)
  | .time => readWith text target .calendar time (Time.read trimmed)
  | .timestamp => readWith text target .calendar timestamp (Timestamp.read trimmed)
  | .offsetTimestamp =>
    readWith text target .calendar offsetTimestamp (OffsetTimestamp.read trimmed)
  | .uuid => readWith text target .uuid uuid (Uuid.read trimmed)
  | .enumeration e =>
    match e.discriminantOf? (String.ofList trimmed) with
    | some n => .ok (enumeration e n)
    | none => readInteger text target

/-! ## Convert -/

/-- A fault of a value as a failure. -/
def orFail {α : Type} : Except ValueFault α → Result α
  | .ok a => .ok a
  | .error fault => .error (.value fault)

/-- The variant of the same name in another enumeration. -/
def matchVariant (source : EnumDef) (n : Discriminant) (target : EnumDef) : Result Datum :=
  match (source.nameOf? n.toInt).bind target.discriminantOf? with
  | some m => .ok (enumeration target m)
  | none => .error (.value (.unmatchedVariant n.toInt source target))

/-- The universal time of a timestamp.  A time that the calendar does not reach ends the
computation. -/
def universal (t : OffsetTimestamp) : Result Timestamp :=
  match t.utc? with
  | some u => .ok u
  | none => .error .abort

/-- A number as a value of another type, checked. -/
def convertNumber (d : Datum) (target : ValueType) : Result Datum :=
  match d.number? with
  | none => .error (.value (.noConversion d target))
  | some n =>
    match ofCheckedNumber target n with
    | .error fault => .error (.value fault)
    | .ok (some r) => .ok r
    | .ok none => .error (.value (.noConversion d target))

/-- The conversion to another type. -/
def convertTo (d : Datum) (target : ValueType) : Result Datum :=
  match d, target with
  | varchar s, _ => orFail (read s target)
  | enumeration e n, .enumeration f => matchVariant e n f
  | _, .varchar => .ok (varchar d.text)
  | blob bytes, .uuid =>
    match Uuid.ofBytes? bytes with
    | some u => .ok (uuid u)
    | none => .error (.value (.blobSize bytes.length))
  | uuid u, .blob => .ok (blob u.bytes)
  | date x, .timestamp => .ok (timestamp ⟨x, .midnight⟩)
  | timestamp t, .date => .ok (date t.date)
  | timestamp t, .time => .ok (time t.time)
  | timestamp t, .offsetTimestamp => .ok (offsetTimestamp (.ofUtc t))
  | offsetTimestamp t, .timestamp => (universal t).map timestamp
  | offsetTimestamp t, .date => (universal t).map fun u => date u.date
  | _, _ => convertNumber d target

/-- The checked conversion to a type. -/
def convert (d : Datum) (target : ValueType) : Result Datum :=
  if d.type = target then .ok d else d.convertTo target

end Datum

namespace Value

/-- The plain cast to a type. -/
def cast (v : Value) (target : ValueType) : Result Value :=
  match v with
  | datum d => (d.cast target).map datum
  | _ => .ok target.empty

/-- The checked conversion to a type. -/
def convert (v : Value) (target : ValueType) : Result Value :=
  match v with
  | datum d => (d.convert target).map datum
  | _ => .ok target.empty

end Value

end RowBinding
