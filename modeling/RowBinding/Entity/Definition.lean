import RowBinding.Native.Conversion
import RowBinding.Row.Fingerprint
/-!
# Definitions of mapped types

A type that the mapper can build or read is either a scalar, made from one value, or an entity.
An entity is built by one of its constructors and then filled member by member; each member tells
how to read it and, unless it is read-only, how to set it.

A member has a name of its own and may have another one in the store.  **The store name is where
the member is looked for first**, and the only one under which it is written.
-/
namespace RowBinding

/-- A parameter of a constructor. -/
structure ParamDef where
  name : String
  type : ValueType
  nullable : Bool
  deriving DecidableEq

namespace ParamDef

/-- The parameter of a native type. -/
def ofNative (name : String) (t : NativeType) : ParamDef := ⟨name, t.valueType, t.nullable⟩

/-- The parameter shown as data. -/
def outline (p : ParamDef) : String :=
  Text.Outline.record "ParamDef"
    [("name", Text.quoted p.name), ("value_type", p.type.outline),
      ("nullable", Text.Outline.bool p.nullable)]

end ParamDef

/-! ## Arguments -/

/-- The arguments of a constructor.  An argument that has been taken leaves a NULL behind. -/
structure Args where
  values : List Value
  deriving DecidableEq

/-- What reads arguments.  A failure keeps what has been taken. -/
abbrev ArgsReader := ExceptT Failure (StateM Args)

namespace Args

def size (a : Args) : Nat := a.values.length

def isEmpty (a : Args) : Bool := a.values.isEmpty

def push (a : Args) (v : Value) : Args := ⟨a.values ++ [v]⟩

/-- The argument at a position as a native value. -/
def take (t : NativeType) (i : Nat) : ArgsReader t.Carrier := do
  match (← get).values[i]? with
  | none => throw (.missingArgument i)
  | some v =>
    modify fun a => ⟨a.values.set i .untyped⟩
    match t.ofValue v with
    | .ok x => return x
    | .error e => throw (e.inArgument i)

/-- The argument at a position in the stored form of a native type. -/
def takeStored (t : NativeType) (i : Nat) : ArgsReader Value := do
  return t.toValue (← take t i)

/-- Runs a reader on arguments. -/
def feed {α : Type} (reader : ArgsReader α) (a : Args) : Result α := (reader.run a).1

end Args

/-! ## Types -/

/-- A way to build an entity from arguments in the order of the parameters. -/
structure ConstructorDef (α : Type) where
  name : String
  params : List ParamDef
  build : Args → Result α

namespace ConstructorDef

variable {α : Type}

def arity (c : ConstructorDef α) : Nat := c.params.length

/-- The constructor shown as data. -/
def outline (c : ConstructorDef α) : String :=
  Text.Outline.record "ConstructorDef"
    [("name", Text.quoted c.name), ("params", Text.Outline.list (c.params.map ParamDef.outline))]

end ConstructorDef

/-- A member of an entity. -/
structure MemberDef (α : Type) where
  name : String
  /-- The name in the store, when it is another one. -/
  mappedName : Option String
  type : ValueType
  nullable : Bool
  get : α → Value
  /-- A read-only member has none. -/
  set : Option (α → Value → Result α)

namespace MemberDef

variable {α : Type}

/-- The name in the store. -/
def fieldName (m : MemberDef α) : String := m.mappedName.getD m.name

def isWritable (m : MemberDef α) : Bool := m.set.isSome

/-- The member shown as data. -/
def outline (m : MemberDef α) : String :=
  Text.Outline.record "MemberDef"
    [("name", Text.quoted m.name),
      ("mapped_name", Text.Outline.option (m.mappedName.map Text.quoted)),
      ("value_type", m.type.outline),
      ("nullable", Text.Outline.bool m.nullable),
      ("writable", Text.Outline.bool m.isWritable)]

end MemberDef

/-- A type with constructors and members, both in the order of declaration. -/
structure EntityDef (α : Type) where
  name : String
  constructors : List (ConstructorDef α)
  members : List (MemberDef α)

/-- The position of the first member with a name of its own. -/
def EntityDef.memberNamed? {α : Type} (e : EntityDef α) (name : String) : Option Nat :=
  e.members.findIdx? fun m => Text.sameName m.name name

/-- A type made from one value. -/
structure ScalarDef (α : Type) where
  type : ValueType
  nullable : Bool
  ofValue : Value → Result α

/-- The definition of a mapped type. -/
inductive TypeDef (α : Type) where
  | scalar (s : ScalarDef α)
  | entity (e : EntityDef α)

namespace TypeDef

variable {α : Type}

/-- The scalar of a native type, kept in its stored form. -/
def ofNative (wrap : Value → α) (t : NativeType) : TypeDef α :=
  .scalar ⟨t.valueType, t.nullable, fun v => (t.store v).map wrap⟩

def isScalar : TypeDef α → Bool
  | scalar _ => true
  | entity _ => false

end TypeDef

/-- The definitions of the mapped types by their full names. -/
abbrev Schema (α : Type) := TypeName → TypeDef α

end RowBinding
