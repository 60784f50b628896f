import RowBinding.Value.Type
import RowBinding.Number.Decimal
import RowBinding.Calendar.Time
import RowBinding.Uuid
/-!
# Values

A value is what moves between rows, objects and parameters.  It is a datum of one of the declared
types, or a NULL of such a type, or a NULL of no type at all; the last stands for a column about
which nothing is known, and is what remains in a row when a value has been moved out of it.
-/
namespace RowBinding

/-- A value that is not NULL. -/
inductive Datum where
  | boolean (b : Bool)
  | integer (k : IntKind) (n : Bounded k)
  | float (w : FloatWidth) (x : Binary w)
  | decimal (x : Decimal)
  | varchar (s : String)
  | blob (bytes : List UInt8)
  | date (d : Date)
  | time (t : Time)
  | timestamp (t : Timestamp)
  | offsetTimestamp (t : OffsetTimestamp)
  | uuid (u : Uuid)
  | enumeration (e : EnumDef) (n : Discriminant)
  deriving DecidableEq

/-- A value or a NULL. -/
inductive Value where
  | untyped
  | null (t : ValueType)
  | datum (d : Datum)
  deriving DecidableEq

instance : Inhabited Value := ⟨.untyped⟩

namespace Datum

/-- The type of a datum. -/
def type : Datum → ValueType
  | boolean _ => .boolean
  | integer k _ => .integer k
  | float w _ => .float w
  | decimal _ => .decimal
  | varchar _ => .varchar
  | blob _ => .blob
  | date _ => .date
  | time _ => .time
  | timestamp _ => .timestamp
  | offsetTimestamp _ => .offsetTimestamp
  | uuid _ => .uuid
  | enumeration e _ => .enumeration e

/-- Equality of what two data mean.  It differs from equality of the data where one meaning has
several representations (decimals of different scale, timestamps of different offset, the two
zeros of a float) and where a float is no number, which equals nothing. -/
def agrees : Datum → Datum → Bool
  | float .single x, float .single y => x.numEq y
  | float .double x, float .double y => x.numEq y
  | decimal x, decimal y => x.numEq y
  | offsetTimestamp s, offsetTimestamp t => s.sameInstant t
  | a, b => a == b

end Datum

namespace Value

def isNull : Value → Bool
  | datum _ => false
  | _ => true

/-- The declared type; only the untyped NULL has none. -/
def type? : Value → Option ValueType
  | untyped => none
  | null t => some t
  | datum d => some d.type

def sameType (a b : Value) : Bool := a.type? == b.type?

/-- Equality of what two values mean; a NULL equals the NULLs of its own type. -/
def agrees : Value → Value → Bool
  | datum a, datum b => a.agrees b
  | a, b => a == b

/-! ## The values of the types that the library writes down itself -/

def boolean (b : Bool) : Value := .datum (.boolean b)
def varchar (s : String) : Value := .datum (.varchar s)
def integer {k : IntKind} (n : Bounded k) : Value := .datum (.integer k n)

end Value

namespace ValueType

/-- The NULL of a type. -/
def empty (t : ValueType) : Value := .null t

/-- What a destination that takes no NULL receives instead.  An enumeration gives its first
variant; one without variants has nothing to give. -/
def zero : ValueType → Value
  | boolean => .datum (.boolean false)
  | integer k => .datum (.integer k (.zero k))
  | float w => .datum (.float w (.zero false))
  | decimal => .datum (.decimal .zero)
  | varchar => .datum (.varchar "")
  | blob => .datum (.blob [])
  | date => .datum (.date .origin)
  | time => .datum (.time .midnight)
  | timestamp => .datum (.timestamp ⟨.origin, .midnight⟩)
  | offsetTimestamp => .datum (.offsetTimestamp (.ofUtc ⟨.origin, .midnight⟩))
  | uuid => .datum (.uuid .nil)
  | enumeration e =>
    match e.variants with
    | [] => .null (enumeration e)
    | v :: _ => .datum (.enumeration e v.discriminant)

end ValueType

end RowBinding
