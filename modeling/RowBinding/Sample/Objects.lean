import RowBinding.Derive.Struct
import RowBinding.Entity.Blueprint
import RowBinding.Entity.Embedding
/-!
# Objects of the sample types

The sample types are scalars, declared structs and blueprints.  Their objects are brought together
here in one type, and their definitions in one table.
-/
namespace RowBinding.Sample

/-- An object of any of the sample types. -/
inductive Object where
  | scalar (v : Value)
  | record (r : Record)
  | assembly (a : Assembly)
  deriving DecidableEq

namespace Object

def record? : Object → Option Record
  | record r => some r
  | _ => none

def assembly? : Object → Option Assembly
  | assembly a => some a
  | _ => none

end Object

/-- A type by its full name. -/
abbrev TypeEntry := TypeName × TypeDef Object

/-- The entry of a scalar. -/
def scalarType (t : NativeType) : TypeEntry := (t.typeName, .ofNative .scalar t)

/-- The entry of a struct. -/
def structType (name : TypeName) (e : EntityDef Record) : TypeEntry :=
  (name, .entity (e.embed .record Object.record?))

/-- The entry of a blueprint. -/
def blueprintType (name : TypeName) (b : Blueprint) : TypeEntry :=
  (name, .entity (b.entity.embed .assembly Object.assembly?))

/-- The definitions in a table.  A type that is not there has no constructors and no members. -/
def schemaOf (table : List TypeEntry) : Schema Object := fun name =>
  ((table.find? (·.1 == name)).map Prod.snd).getD (.entity ⟨name, [], []⟩)

end RowBinding.Sample
