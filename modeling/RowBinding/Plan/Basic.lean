import RowBinding.Plan.Analysis
import RowBinding.Rules.Resolution
/-!
# Conversion plans

A plan is the list of operations that turns one shape into one target.  It is data: each operation
says where a value comes from, how it is adapted, and where it goes.  The routines that a mapper
hands out do nothing but follow their plan.
-/
namespace RowBinding

/-- Where the value of an operation goes. -/
inductive Slot where
  /-- The constructor's parameter at a position. -/
  | argument (i : Nat)
  /-- The member at a position. -/
  | member (i : Nat)
  /-- The value is the result. -/
  | result
  | parameter (storage : Option StorageType)
  deriving DecidableEq, Repr

/-- The slot shown as data. -/
def Slot.outline : Slot → String
  | argument i => Text.Outline.tagged "Argument" [Numeral.text i]
  | member i => Text.Outline.tagged "Member" [Numeral.text i]
  | result => "Result"
  | parameter storage =>
    Text.Outline.tagged "Parameter" [Text.Outline.option (storage.map StorageType.name)]

def Slot.isArgument : Slot → Bool
  | argument _ => true
  | _ => false

def Slot.isMember : Slot → Bool
  | member _ => true
  | _ => false

/-- One step of a routine. -/
structure Operation where
  /-- The position of the value in the row, or of the member in the parameter type. -/
  source : Nat
  /-- The label of the field, or the name of the parameter. -/
  name : String
  /-- The type after the coercion. -/
  type : ValueType
  coercion : Coercion
  handler : Option ValueHandler
  /-- What takes the place of a NULL before anything else happens. -/
  onNull : Option Value
  destination : Slot

/-- The operation shown as data. -/
def Operation.outline (op : Operation) : String :=
  Text.Outline.record "Operation"
    [("source", Numeral.text op.source),
      ("name", Text.quoted op.name),
      ("value_type", op.type.outline),
      ("coercion", op.coercion.outline),
      ("handler", Text.Outline.bool op.handler.isSome),
      ("on_null", Text.Outline.option (op.onNull.map Value.outline)),
      ("destination", op.destination.outline)]

/-- The operations for one shape and one target. -/
structure Plan where
  fingerprint : Fingerprint
  mode : BindingMode
  selected : Option Nat
  /-- The arguments in the order of the parameters, then the assignments. -/
  operations : List Operation

namespace Plan

/-- The operations that feed the constructor. -/
def arguments (p : Plan) : List Operation := p.operations.filter (·.destination.isArgument)

/-- The operations that assign members. -/
def assignments (p : Plan) : List Operation := p.operations.filter (·.destination.isMember)

def arity (p : Plan) : Nat := p.arguments.length

/-- The plan shown as data. -/
def outline (p : Plan) : String :=
  Text.Outline.record "ConversionPlan"
    [("fingerprint", p.fingerprint.outline),
      ("mode", p.mode.outline),
      ("constructor", Text.Outline.option (p.selected.map fun i => Numeral.text i)),
      ("operations", Text.Outline.list (p.operations.map Operation.outline))]

/-! ## Rows to objects -/

/-- What replaces a NULL: nothing where a handler sees the value, the typed NULL where the
destination takes one, and the zero of its type otherwise. -/
def nullReplacement (nullable handled : Bool) (t : ValueType) : Option Value :=
  if handled then none else if nullable then some t.empty else some t.zero

/-- The operation that moves a field to a destination of a declared type, under a rule. -/
def inboundOperation (rule : FieldRule) (f : Field) (source : Nat) (t : ValueType)
    (nullable : Bool) (destination : Slot) : Operation where
  source := source
  name := f.label
  type := rule.type
  coercion := rule.coercion
  handler := rule.handler
  onNull := nullReplacement nullable rule.handler.isSome t
  destination := destination

variable {α : Type}

/-- The operation of the only field of a scalar. -/
def scalarOperation (rules : Rules α) (p : Fingerprint) (s : ScalarDef α) (f : Field) :
    Operation :=
  inboundOperation (rules.resolveInbound p.target "" s.type f.type) f 0 s.type s.nullable .result

/-- The operation of an argument.  Its rules are those of the member of the parameter's name, or of
that name itself. -/
def argumentOperation? (rules : Rules α) (p : Fingerprint) (e : EntityDef α)
    (c : ConstructorDef α) (a : ArgumentBinding) : Option Operation := do
  let f ← p.fields[a.field]?
  let param ← c.params[a.param]?
  let member := ((a.member.bind (e.members[·]?)).map (·.name)).getD param.name
  return inboundOperation (rules.resolveInbound p.target member param.type f.type) f a.field
    param.type param.nullable (.argument a.param)

/-- The operation of an assignment. -/
def assignmentOperation? (rules : Rules α) (p : Fingerprint) (e : EntityDef α)
    (a : MemberBinding) : Option Operation := do
  let f ← p.fields[a.field]?
  let m ← e.members[a.member]?
  return inboundOperation (rules.resolveInbound p.target m.name m.type f.type) f a.field m.type
    m.nullable (.member a.member)

/-- The operations of an analysed shape. -/
def inboundOperations (rules : Rules α) (p : Fingerprint) (d : TypeDef α)
    (analysis : ShapeAnalysis) : List Operation :=
  match d with
  | .scalar s => (p.fields.head?.map (scalarOperation rules p s)).toList
  | .entity e =>
    let arguments :=
      match analysis.selected.bind (e.constructors[·]?) with
      | some c => analysis.arguments.filterMap (argumentOperation? rules p e c)
      | none => []
    arguments ++ analysis.assignments.filterMap (assignmentOperation? rules p e)

/-- The plan that reads rows of a shape into a type. -/
def ofRow (rules : Rules α) (d : TypeDef α) (p : Fingerprint) : Result Plan := do
  let analysis ← d.analyzeRow p
  return ⟨p, analysis.mode, analysis.selected, inboundOperations rules p d analysis⟩

/-! ## Objects to parameters -/

/-- The members whose rules apply to a parameter: its own, then its counterpart. -/
def outboundMembers (p : Fingerprint) (source : TypeDef α) (m : MemberDef α)
    (b : ParameterBinding) : List OutboundMember :=
  let counterpart : Option OutboundMember := do
    let owner ← p.source
    let i ← b.sourceMember
    match source with
    | .entity e => do
      let n ← e.members[i]?
      return ⟨owner, n.name⟩
    | .scalar _ => none
  ⟨p.target, m.name⟩ :: counterpart.toList

/-- The operation of a parameter. -/
def outboundOperation? (rules : Rules α) (p : Fingerprint) (e : EntityDef α) (source : TypeDef α)
    (b : ParameterBinding) : Option Operation := do
  let m ← e.members[b.member]?
  let fieldType? := (b.field.bind (p.fields[·]?)).map (·.type)
  let rule := rules.resolveOutbound (outboundMembers p source m b) m.type fieldType?
  return ⟨b.member, m.fieldName, rule.type, rule.coercion, rule.handler, none,
    .parameter rule.storage⟩

/-- The plan that reads a type into parameters; the rules of the type it is read through apply
too. -/
def ofParameters (rules : Rules α) (d source : TypeDef α) (p : Fingerprint) : Result Plan := do
  let bindings ← d.analyzeParameters source p
  match d with
  | .entity e =>
    return ⟨p, .memberInit, none, bindings.filterMap (outboundOperation? rules p e source)⟩
  | .scalar _ => return ⟨p, .scalar, none, []⟩

end Plan

end RowBinding
