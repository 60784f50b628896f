import RowBinding.Native.Type
import RowBinding.Value.Conversion
/-!
# Between native values and stored values

A native value has one stored form.  In the other direction a native type takes every value that
converts to its value type; a NULL is taken only where the type has room for a missing value.
-/
namespace RowBinding

namespace BaseType

/-- Why a datum of the right type is still no native value: an enumeration lacks the variant. -/
def refusal (t : BaseType) : Datum → Failure
  | .enumeration e n => .value (.undefinedVariant n.toInt e)
  | d => .value (.noConversion d t.valueType)

/-- The native value of a datum that stands as the type stores its own.  The discriminant of an
enumeration is always looked up, so it has none here. -/
def own? (t : BaseType) (d : Datum) : Option t.Carrier :=
  if t.valueType.isEnum then none else t.ofDatum? d

/-- The native value that a datum converts to. -/
def ofDatum (t : BaseType) (d : Datum) : Result t.Carrier := do
  let stored ← d.convert t.valueType
  match t.ofDatum? stored with
  | some x => return x
  | none => throw (t.refusal stored)

/-- The native value of a value; a NULL has none.  A datum of the type itself is taken as it stands,
and only another one is converted. -/
def ofValue (t : BaseType) : Value → Result t.Carrier
  | .datum d =>
    match t.own? d with
    | some x => .ok x
    | none => t.ofDatum d
  | _ => .error (.nullInto t.typeName)

end BaseType

namespace NativeType

/-- The stored form of a native value; what is missing is stored as the NULL of the type. -/
def toValue : (t : NativeType) → t.Carrier → Value
  | base b, x => .datum (b.toDatum x)
  | option t, (x : Option t.Carrier) =>
    match x with
    | some y => t.toValue y
    | none => t.valueType.empty
  | box t, x => t.toValue x

/-- The native value of a value. -/
def ofValue : (t : NativeType) → Value → Result t.Carrier
  | base b, v => b.ofValue v
  | option t, v => if v.isNull then .ok (none : Option t.Carrier) else (t.ofValue v).map some
  | box t, v => t.ofValue v

/-- What a member of this type stores when it is given a value: the stored form of the native
value. -/
def store (t : NativeType) (v : Value) : Result Value := (t.ofValue v).map t.toValue

end NativeType

end RowBinding
