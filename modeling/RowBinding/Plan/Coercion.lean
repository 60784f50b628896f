import RowBinding.Value.Conversion
/-!
# Coercions

A plan says of each value it moves how the value is adapted to the type its destination expects.
-/
namespace RowBinding

/-- The adaptation of a value. -/
inductive Coercion where
  | identity
  | cast (t : ValueType)
  | convert (t : ValueType)
  /-- A name or a discriminant becomes a variant; one that is not defined fails. -/
  | parseEnum (e : EnumDef)
  deriving DecidableEq

namespace Coercion

/-- The adapted value. -/
def apply : Coercion → Value → Result Value
  | identity, v => .ok v
  | cast t, v => v.cast t
  | convert t, v => v.convert t
  | parseEnum e, v => v.convert (.enumeration e)

def text : Coercion → String
  | identity => "identity"
  | cast t => "cast to " ++ t.text
  | convert t => "convert to " ++ t.text
  | parseEnum e => "parse " ++ e.name

/-- The coercion shown as data. -/
def outline : Coercion → String
  | identity => "Identity"
  | cast t => Text.Outline.tagged "Cast" [t.outline]
  | convert t => Text.Outline.tagged "Convert" [t.outline]
  | parseEnum e => Text.Outline.tagged "ParseEnum" [e.outline]

end Coercion

end RowBinding
