import RowBinding.Value.Type
/-!
# Storage types

A store tags each parameter with a type of its own.  The tags do not match the value types one to
one: several tags carry text, decimals or timestamps, an enumeration has no tag until a rule gives
it one, and the tag `Object` carries anything.
-/
namespace RowBinding

/-- The tag of a parameter. -/
inductive StorageType where
  | ansiString | binary | boolean | byte | currency | date | dateTime | dateTime2 | dateTimeOffset
  | decimal | double | guid | int16 | int32 | int64 | object | sbyte | single | string | time
  | uint16 | uint32 | uint64
  deriving DecidableEq, Repr

namespace StorageType

/-- All the tags in alphabetical order. -/
def all : List StorageType :=
  [ansiString, binary, boolean, byte, currency, date, dateTime, dateTime2, dateTimeOffset, decimal,
    double, guid, int16, int32, int64, object, sbyte, single, string, time, uint16, uint32, uint64]

def name : StorageType → String
  | ansiString => "AnsiString"
  | binary => "Binary"
  | boolean => "Boolean"
  | byte => "Byte"
  | currency => "Currency"
  | date => "Date"
  | dateTime => "DateTime"
  | dateTime2 => "DateTime2"
  | dateTimeOffset => "DateTimeOffset"
  | decimal => "Decimal"
  | double => "Double"
  | guid => "Guid"
  | int16 => "Int16"
  | int32 => "Int32"
  | int64 => "Int64"
  | object => "Object"
  | sbyte => "SByte"
  | single => "Single"
  | string => "String"
  | time => "Time"
  | uint16 => "UInt16"
  | uint32 => "UInt32"
  | uint64 => "UInt64"

/-- The tag of a name, blanks around it aside. -/
def ofName? (text : String) : Option StorageType :=
  let trimmed := String.ofList (Text.trimmed text)
  all.find? fun s => Text.sameName s.name trimmed

/-- The tag of an integer kind. -/
def forIntKind : IntKind → StorageType
  | .int8 => sbyte
  | .int16 => int16
  | .int32 => int32
  | .int64 => int64
  | .uint8 => byte
  | .uint16 => uint16
  | .uint32 => uint32
  | .uint64 => uint64

/-- The tag a value type has when no rule says otherwise; an enumeration has none. -/
def forValueType? : ValueType → Option StorageType
  | .boolean => some boolean
  | .integer k => some (forIntKind k)
  | .float .single => some single
  | .float .double => some double
  | .decimal => some decimal
  | .varchar => some string
  | .blob => some binary
  | .date => some date
  | .time => some time
  | .timestamp => some dateTime2
  | .offsetTimestamp => some dateTimeOffset
  | .uuid => some guid
  | .enumeration _ => none

/-- The type of the values a tag carries; only `Object` carries any. -/
def valueType? : StorageType → Option ValueType
  | ansiString | string => some .varchar
  | binary => some .blob
  | boolean => some .boolean
  | byte => some (.integer .uint8)
  | currency | decimal => some .decimal
  | date => some .date
  | dateTime | dateTime2 => some .timestamp
  | dateTimeOffset => some .offsetTimestamp
  | double => some (.float .double)
  | guid => some .uuid
  | int16 => some (.integer .int16)
  | int32 => some (.integer .int32)
  | int64 => some (.integer .int64)
  | object => none
  | sbyte => some (.integer .int8)
  | single => some (.float .single)
  | time => some .time
  | uint16 => some (.integer .uint16)
  | uint32 => some (.integer .uint32)
  | uint64 => some (.integer .uint64)

end StorageType

end RowBinding
