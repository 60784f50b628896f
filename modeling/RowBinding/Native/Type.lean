import RowBinding.Value.Basic
/-!
# Native types

The members of an object have native types: a base type, or a base type that may be missing, or
one behind a pointer, in any nesting.  **A native type knows the value type it is stored as and
whether it takes a NULL.**  Two base types may share a value type: bytes come in two containers.
-/
namespace RowBinding

/-- The native types that carry a value themselves. -/
inductive BaseType where
  | bool
  | integer (k : IntKind)
  | float (w : FloatWidth)
  | decimal
  | string
  | boxedBytes
  | byteVector
  | date
  | time
  | timestamp
  | offsetTimestamp
  | uuid
  /-- An enumeration with the path of its type. -/
  | enumeration (path : String) (e : EnumDef)
  deriving DecidableEq

/-- The short name of an integer type. -/
def IntKind.shortName : IntKind → String
  | int8 => "i8"
  | int16 => "i16"
  | int32 => "i32"
  | int64 => "i64"
  | uint8 => "u8"
  | uint16 => "u16"
  | uint32 => "u32"
  | uint64 => "u64"

def FloatWidth.shortName : FloatWidth → String
  | single => "f32"
  | double => "f64"

namespace BaseType

/-- The type of the stored value. -/
def valueType : BaseType → ValueType
  | bool => .boolean
  | integer k => .integer k
  | float w => .float w
  | decimal => .decimal
  | string => .varchar
  | boxedBytes | byteVector => .blob
  | date => .date
  | time => .time
  | timestamp => .timestamp
  | offsetTimestamp => .offsetTimestamp
  | uuid => .uuid
  | enumeration _ e => .enumeration e

/-- The full name of the type, as messages give it. -/
def typeName : BaseType → String
  | bool => "bool"
  | integer k => k.shortName
  | float w => w.shortName
  | decimal => "rust_decimal::decimal::Decimal"
  | string => "alloc::string::String"
  | boxedBytes => "alloc::boxed::Box<[u8]>"
  | byteVector => "alloc::vec::Vec<u8>"
  | date => "time::date::Date"
  | time => "time::time::Time"
  | timestamp => "time::plain_date_time::PlainDateTime"
  | offsetTimestamp => "time::offset_date_time::OffsetDateTime"
  | uuid => "uuid::Uuid"
  | enumeration path _ => path

/-- The name by which a declaration mentions the type. -/
def mention : BaseType → String
  | bool => "bool"
  | integer k => k.shortName
  | float w => w.shortName
  | decimal => "Decimal"
  | string => "String"
  | boxedBytes => "Box<[u8]>"
  | byteVector => "Vec<u8>"
  | date => "Date"
  | time => "Time"
  | timestamp => "PrimitiveDateTime"
  | offsetTimestamp => "OffsetDateTime"
  | uuid => "Uuid"
  | enumeration _ e => e.name

/-- The base types that are no enumerations. -/
def plain : List BaseType :=
  [bool, integer .int8, integer .int16, integer .int32, integer .int64, integer .uint8,
    integer .uint16, integer .uint32, integer .uint64, float .single, float .double, decimal,
    string, boxedBytes, byteVector, date, time, timestamp, offsetTimestamp, uuid]

/-- The native values of a base type.  An enumeration has the discriminants of its variants. -/
def Carrier : BaseType → Type
  | bool => Bool
  | integer k => Bounded k
  | float w => Binary w
  | decimal => Decimal
  | string => String
  | boxedBytes | byteVector => List UInt8
  | date => Date
  | time => Time
  | timestamp => Timestamp
  | offsetTimestamp => OffsetTimestamp
  | uuid => Uuid
  | enumeration _ e => { n : Discriminant // e.contains n.toInt = true }

/-- The stored form of a native value. -/
def toDatum : (t : BaseType) → t.Carrier → Datum
  | bool, (b : Bool) => .boolean b
  | integer k, (n : Bounded k) => .integer k n
  | float w, (x : Binary w) => .float w x
  | decimal, (x : Decimal) => .decimal x
  | string, (s : String) => .varchar s
  | boxedBytes, (bytes : List UInt8) => .blob bytes
  | byteVector, (bytes : List UInt8) => .blob bytes
  | date, (d : Date) => .date d
  | time, (t : Time) => .time t
  | timestamp, (t : Timestamp) => .timestamp t
  | offsetTimestamp, (t : OffsetTimestamp) => .offsetTimestamp t
  | uuid, (u : Uuid) => .uuid u
  | enumeration _ e, (n : { n : Discriminant // e.contains n.toInt = true }) => .enumeration e n.1

/-- The native value of a stored form, if it is of the type's own value type and, for an
enumeration, one of its variants. -/
def ofDatum? : (t : BaseType) → Datum → Option t.Carrier
  | bool, .boolean b => some (b : Bool)
  | integer k, .integer l n => if h : l = k then some (h ▸ n : Bounded k) else none
  | float w, .float v x => if h : v = w then some (h ▸ x : Binary w) else none
  | decimal, .decimal x => some (x : Decimal)
  | string, .varchar s => some (s : String)
  | boxedBytes, .blob bytes => some (bytes : List UInt8)
  | byteVector, .blob bytes => some (bytes : List UInt8)
  | date, .date d => some (d : Date)
  | time, .time t => some (t : Time)
  | timestamp, .timestamp t => some (t : Timestamp)
  | offsetTimestamp, .offsetTimestamp t => some (t : OffsetTimestamp)
  | uuid, .uuid u => some (u : Uuid)
  | enumeration _ e, .enumeration f n =>
    if h : f = e ∧ e.contains n.toInt = true then
      some (⟨n, h.2⟩ : { n : Discriminant // e.contains n.toInt = true })
    else none
  | _, _ => none

end BaseType

/-- A native type. -/
inductive NativeType where
  | base (b : BaseType)
  /-- A value that may be missing. -/
  | option (t : NativeType)
  /-- A value behind a pointer. -/
  | box (t : NativeType)
  deriving DecidableEq

namespace NativeType

/-- The type of the stored value. -/
def valueType : NativeType → ValueType
  | base b => b.valueType
  | option t | box t => t.valueType

/-- Whether a NULL is a value of the type. -/
def nullable : NativeType → Bool
  | base _ => false
  | option _ => true
  | box t => t.nullable

/-- The full name of the type, as messages give it. -/
def typeName : NativeType → String
  | base b => b.typeName
  | option t => "core::option::Option<" ++ t.typeName ++ ">"
  | box t => "alloc::boxed::Box<" ++ t.typeName ++ ">"

/-- The stored form of a member to which nothing has been assigned: missing if it may be, and zero
otherwise. -/
def start (t : NativeType) : Value := if t.nullable then t.valueType.empty else t.valueType.zero

/-- The native values of a type. -/
def Carrier : NativeType → Type
  | base b => b.Carrier
  | option t => Option t.Carrier
  | box t => t.Carrier

/-! ## Reading a type

A declaration mentions a type by a name, with `Option<..>` and `Box<..>` around it. -/

/-- What stands between `head` and a closing bracket. -/
def framed? (head : String) (cs : List Char) : Option (List Char) :=
  let start := head.toList
  if cs.take start.length = start ∧ cs.getLast? = some '>' then
    some ((cs.drop start.length).dropLast)
  else none

/-- The type that a text of at most `fuel` brackets mentions. -/
def ofChars? (known : String → Option BaseType) : (fuel : Nat) → List Char → Option NativeType
  | 0, _ => none
  | fuel + 1, cs =>
    match known (String.ofList cs) with
    | some b => some (base b)
    | none =>
      match framed? "Option<" cs, framed? "Box<" cs with
      | some inner, _ => (ofChars? known fuel inner).map option
      | none, some inner => (ofChars? known fuel inner).map box
      | none, none => none

/-- The type that a text mentions, where `enums` are the enumerations in scope.  Blanks between the
signs of the text mean nothing. -/
def ofText? (enums : List BaseType) (text : String) : Option NativeType :=
  let cs := text.toList.filter (!Text.isBlank ·)
  ofChars? (fun name => (BaseType.plain ++ enums).find? (·.mention == name)) cs.length cs

end NativeType

end RowBinding
