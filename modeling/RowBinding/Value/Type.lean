import RowBinding.Text.Basic
import RowBinding.Text.Outline
import RowBinding.Number.Integer
import RowBinding.Number.Binary
import RowBinding.Number.Numeral
/-!
# The types of values

A column, a member and a parameter each declare one of these types.  An enumeration is described
by its name and its variants; a variant is stored by its name or by its discriminant, and each of
the two is looked up in the order of declaration, the first match counting.
-/
namespace RowBinding

/-- The discriminants of enumerations. -/
abbrev Discriminant := Bounded .int64

/-- A variant of an enumeration. -/
structure Variant where
  name : String
  discriminant : Discriminant
  deriving DecidableEq

/-- An enumeration whose variants carry no data. -/
structure EnumDef where
  name : String
  variants : List Variant
  deriving DecidableEq

namespace EnumDef

/-- The name of the first variant with a discriminant. -/
def nameOf? (e : EnumDef) (n : Int) : Option String :=
  (e.variants.find? fun v => v.discriminant.toInt == n).map (·.name)

/-- The discriminant of the first variant with a name. -/
def discriminantOf? (e : EnumDef) (name : String) : Option Discriminant :=
  (e.variants.find? fun v => Text.sameName v.name name).map (·.discriminant)

/-- Whether a variant has the discriminant. -/
def contains (e : EnumDef) (n : Int) : Bool := (e.nameOf? n).isSome

/-- The enumeration shown as data. -/
def outline (e : EnumDef) : String :=
  Text.Outline.record "EnumDef"
    [("name", Text.quoted e.name),
      ("variants", Text.Outline.list (e.variants.map fun v =>
        Text.Outline.tuple [Text.quoted v.name, Numeral.text v.discriminant.toInt]))]

end EnumDef

/-- The declared type of a value. -/
inductive ValueType where
  | boolean
  | integer (k : IntKind)
  | float (w : FloatWidth)
  | decimal
  | varchar
  | blob
  | date
  | time
  | timestamp
  | offsetTimestamp
  | uuid
  | enumeration (e : EnumDef)
  deriving DecidableEq

def IntKind.name : IntKind → String
  | int8 => "Int8"
  | int16 => "Int16"
  | int32 => "Int32"
  | int64 => "Int64"
  | uint8 => "UInt8"
  | uint16 => "UInt16"
  | uint32 => "UInt32"
  | uint64 => "UInt64"

def FloatWidth.name : FloatWidth → String
  | single => "Float32"
  | double => "Float64"

namespace ValueType

/-- The name of the type, without the enumeration. -/
def tag : ValueType → String
  | boolean => "Boolean"
  | integer k => k.name
  | float w => w.name
  | decimal => "Decimal"
  | varchar => "Varchar"
  | blob => "Blob"
  | date => "Date"
  | time => "Time"
  | timestamp => "Timestamp"
  | offsetTimestamp => "TimestampWithTimezone"
  | uuid => "Uuid"
  | enumeration _ => "Enum"

/-- The name of the type, as messages give it. -/
def text : ValueType → String
  | enumeration e => Text.Outline.tagged "Enum" [e.name]
  | t => t.tag

/-- The type shown as data. -/
def outline : ValueType → String
  | enumeration e => Text.Outline.tagged "Enum" [e.outline]
  | t => t.tag

def isInteger : ValueType → Bool
  | integer _ => true
  | _ => false

def isNumeric : ValueType → Bool
  | integer _ | float _ | decimal => true
  | _ => false

def isEnum : ValueType → Bool
  | enumeration _ => true
  | _ => false

/-- The types that are no enumerations, in the order in which they are listed. -/
def plain : List ValueType :=
  [boolean, integer .int8, integer .int16, integer .int32, integer .int64, integer .uint8,
    integer .uint16, integer .uint32, integer .uint64, float .single, float .double, decimal,
    varchar, blob, date, time, timestamp, offsetTimestamp, uuid]

/-- The plain type of a name. -/
def ofName? (name : String) : Option ValueType := plain.find? (·.tag == name)

end ValueType

end RowBinding
