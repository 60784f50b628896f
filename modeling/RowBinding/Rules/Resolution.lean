import RowBinding.Rules.Basic
import RowBinding.Plan.Coercion
/-!
# Which rule applies to a value

For each field that is read and each member that is written the rules come down to one record: the
type the value ends up with, how it gets there, the handler in between, and for a parameter its
storage type.
-/
namespace RowBinding

/-- What the rules say about one value. -/
structure FieldRule where
  /-- The type after the coercion. -/
  type : ValueType
  coercion : Coercion
  handler : Option ValueHandler
  /-- Only parameters have one. -/
  storage : Option StorageType

/-- The rule shown as data. -/
def FieldRule.outline (r : FieldRule) : String :=
  Text.Outline.record "FieldRule"
    [("value_type", r.type.outline), ("coercion", r.coercion.outline),
      ("handler", Text.Outline.bool r.handler.isSome),
      ("storage_type", Text.Outline.option (r.storage.map StorageType.name))]

/-- The coercion from one type to another: none between equal types, a check into an enumeration,
and otherwise what the mode says. -/
def Coercion.between (mode : ConversionMode) (source target : ValueType) : Coercion :=
  if source = target then .identity
  else
    match target, mode with
    | .enumeration e, _ => .parseEnum e
    | t, .automatic => .convert t
    | t, .plain => .cast t

/-- A member for which a parameter is resolved. -/
structure OutboundMember where
  /-- The type that declares the member. -/
  owner : TypeName
  name : String
  deriving DecidableEq

namespace Rules

variable {α : Type}

/-- What applies to a field that is read into a member.  A handler on the member receives the value
in its storage type. -/
def resolveInbound (r : Rules α) (target : TypeName) (member : String)
    (memberType fieldType : ValueType) : FieldRule :=
  let handler := r.valueHandler? target member
  let type := (handler.map (·.storage)).getD memberType
  ⟨type, .between r.settings.mode fieldType type, handler, none⟩

/-- The first handler on one of the members. -/
def firstHandler? (r : Rules α) (members : List OutboundMember) : Option ValueHandler :=
  members.findSome? fun m => r.valueHandler? m.owner m.name

/-- The type that a value takes on its way to a store field, and how: in automatic mode it becomes
the field's type, otherwise it stays as it is. -/
def towardField (r : Rules α) (type : ValueType) (fieldType? : Option ValueType) :
    ValueType × Coercion :=
  match r.settings.mode, fieldType? with
  | .automatic, some t => if t = type then (type, .identity) else (t, .convert t)
  | _, _ => (type, .identity)

/-- The storage type of a parameter: the rule of a member, of the value type, the type's own one,
and for enumerations the one in the settings. -/
def storageOf (r : Rules α) (members : List OutboundMember) (type : ValueType) :
    Option StorageType :=
  (members.findSome? fun m => r.memberStorage? m.owner m.name)
    |>.or (r.typeStorage? type)
    |>.or (StorageType.forValueType? type)
    |>.or (if type.isEnum then some r.settings.enumStorage else none)

/-- An enumeration is rendered in the representation of its storage type, if that has one. -/
def rendered (type : ValueType) (coercion : Coercion) (storage : Option StorageType) :
    ValueType × Coercion :=
  match type.isEnum, storage.bind (·.valueType?) with
  | true, some t => (t, .convert t)
  | _, _ => (type, coercion)

/-- What applies to a member that is read into a parameter.  The members are the one of the
parameter type and then the one of the entity type it is read through; the first one with a rule
decides. -/
def resolveOutbound (r : Rules α) (members : List OutboundMember) (memberType : ValueType)
    (fieldType? : Option ValueType) : FieldRule :=
  let handler := r.firstHandler? members
  let own := (handler.map (·.storage)).getD memberType
  let (type, coercion) := r.towardField own fieldType?
  let storage := r.storageOf members type
  let (type, coercion) := rendered type coercion storage
  ⟨type, coercion, handler, storage⟩

end Rules

end RowBinding
