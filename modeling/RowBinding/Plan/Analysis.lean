import RowBinding.Entity.Definition
/-!
# How a shape feeds a type

Analysis decides by names alone which field goes where.  **Of the constructors whose parameters all
find a field the one with the most parameters is taken, the first declared of several**; the fields
that are left over are assigned to the writable members they name, and a field that names none is
ignored.

Names are looked up from both ends.  A parameter asks for the member of its name, and through it
for a field; a left-over field asks for a member.  Both ask for the store name first and for the
member's own name after that.
-/
namespace RowBinding

/-- How a row becomes its result. -/
inductive BindingMode where
  /-- By constructor arguments, what is left being assigned. -/
  | constructorArgs
  /-- By a constructor without parameters and assignments. -/
  | memberInit
  /-- The single field is the result. -/
  | scalar
  deriving DecidableEq, Repr

def BindingMode.text : BindingMode → String
  | constructorArgs => "constructor arguments"
  | memberInit => "member initialization"
  | scalar => "scalar"

/-- The mode shown as data. -/
def BindingMode.outline : BindingMode → String
  | constructorArgs => "ConstructorArgs"
  | memberInit => "MemberInit"
  | scalar => "Scalar"

/-- A field that feeds a parameter. -/
structure ArgumentBinding where
  field : Nat
  param : Nat
  /-- The member of the parameter's name; its rules apply to the argument. -/
  member : Option Nat
  deriving DecidableEq, Repr

/-- A field that is assigned to a member. -/
structure MemberBinding where
  field : Nat
  member : Nat
  deriving DecidableEq, Repr

/-- The bindings of a shape to a type. -/
structure ShapeAnalysis where
  mode : BindingMode
  /-- The position of the constructor; a scalar has none. -/
  selected : Option Nat
  /-- In the order of the parameters. -/
  arguments : List ArgumentBinding
  /-- In the order of the fields. -/
  assignments : List MemberBinding
  deriving DecidableEq, Repr

/-- A member that is read into a parameter. -/
structure ParameterBinding where
  member : Nat
  /-- The member of the entity type of the same name, when that is another type. -/
  sourceMember : Option Nat
  /-- The store field the parameter is for. -/
  field : Option Nat
  deriving DecidableEq, Repr

namespace Fingerprint

def shapeMismatch (p : Fingerprint) (fault : ShapeFault) : Failure :=
  .shapeMismatch p.target p.shape fault

def bindingFailure (p : Fingerprint) (fault : BindingFault) : Failure :=
  .binding p.target p.shape fault

/-- The first field whose label one of the fields before it has. -/
def duplicate? : (seen : List Field) → List Field → Option Field
  | _, [] => none
  | seen, f :: fs =>
    if seen.any (·.isNamed f.label) then some f else duplicate? (seen ++ [f]) fs

/-- The labels of a shape must differ. -/
def checkUnique (p : Fingerprint) : Result Unit :=
  match duplicate? [] p.fields with
  | some f => .error (p.shapeMismatch (.duplicateLabel f.label))
  | none => .ok ()

end Fingerprint

/-! ## Names -/

section Names

variable {α : Type}

/-- The field of a member: by its store name, then by its own. -/
def MemberDef.fieldIn? (m : MemberDef α) (fields : List Field) : Option Nat :=
  (m.mappedName.bind (Field.positionOf? fields)).or (Field.positionOf? fields m.name)

/-- The member of a field: the first with that store name, then the first with that name. -/
def EntityDef.memberOf? (e : EntityDef α) (f : Field) : Option Nat :=
  (e.members.findIdx? fun m => m.mappedName.any f.isNamed).or
    (e.members.findIdx? fun m => f.isNamed m.name)

/-- The field of a parameter: that of the member of the same name, or else the one that the
parameter names itself. -/
def EntityDef.parameterField? (e : EntityDef α) (fields : List Field) (name : String) :
    Option Nat :=
  ((e.memberNamed? name).bind fun i => e.members[i]?.bind (·.fieldIn? fields)).or
    (Field.positionOf? fields name)

end Names

/-! ## Rows -/

section Rows

variable {α : Type}

/-- The binding of one parameter. -/
def EntityDef.argument? (e : EntityDef α) (fields : List Field) (p : ParamDef) (i : Nat) :
    Option ArgumentBinding :=
  (e.parameterField? fields p.name).map fun field => ⟨field, i, e.memberNamed? p.name⟩

/-- The bindings of all the parameters of a constructor, if each of them finds a field. -/
def EntityDef.arguments? (e : EntityDef α) (fields : List Field) (c : ConstructorDef α) :
    Option (List ArgumentBinding) :=
  c.params.zipIdx.mapM fun (p, i) => e.argument? fields p i

/-- The better of the constructor chosen so far and the one at a position. -/
def EntityDef.better (e : EntityDef α) (fields : List Field)
    (best : Option (Nat × List ArgumentBinding)) (candidate : ConstructorDef α × Nat) :
    Option (Nat × List ArgumentBinding) :=
  match e.arguments? fields candidate.1, best with
  | none, _ => best
  | some arguments, none => some (candidate.2, arguments)
  | some arguments, some (i, current) =>
    if current.length < arguments.length then some (candidate.2, arguments) else some (i, current)

/-- The constructor for a shape, with the bindings of its parameters. -/
def EntityDef.select? (e : EntityDef α) (fields : List Field) :
    Option (Nat × List ArgumentBinding) :=
  e.constructors.zipIdx.foldl (e.better fields) none

/-- Whether a binding feeds a member already. -/
def isBound (arguments : List ArgumentBinding) (assignments : List MemberBinding) (member : Nat) :
    Bool :=
  arguments.any (·.member == some member) || assignments.any (·.member == member)

/-- The assignments with that of one more field. -/
def EntityDef.assign (e : EntityDef α) (arguments : List ArgumentBinding)
    (assignments : List MemberBinding) (candidate : Field × Nat) : List MemberBinding :=
  let (f, i) := candidate
  if arguments.any (·.field == i) then assignments
  else
    match e.memberOf? f with
    | none => assignments
    | some m =>
      if (e.members[m]?.any (·.isWritable)) && !isBound arguments assignments m then
        assignments ++ [⟨i, m⟩]
      else assignments

/-- The assignments of the fields that feed no parameter. -/
def EntityDef.assignments (e : EntityDef α) (fields : List Field)
    (arguments : List ArgumentBinding) : List MemberBinding :=
  fields.zipIdx.foldl (e.assign arguments) []

/-- How a row shape feeds an entity. -/
def EntityDef.analyzeRow (e : EntityDef α) (p : Fingerprint) : Result ShapeAnalysis :=
  match e.select? p.fields with
  | none => .error (p.bindingFailure (.noConstructor e.constructors.length e.name))
  | some (selected, arguments) =>
    let assignments := e.assignments p.fields arguments
    if arguments.isEmpty && assignments.isEmpty then
      .error (p.bindingFailure (.noMember e.name))
    else
      .ok ⟨if arguments.isEmpty then .memberInit else .constructorArgs, some selected, arguments,
        assignments⟩

/-- How a row shape feeds a type. -/
def TypeDef.analyzeRow (d : TypeDef α) (p : Fingerprint) : Result ShapeAnalysis := do
  p.checkUnique
  match d with
  | .scalar _ =>
    if p.fields.length = 1 then .ok ⟨.scalar, none, [], []⟩
    else .error (p.shapeMismatch (.scalarFields p.fields.length))
  | .entity e => e.analyzeRow p

end Rows

/-! ## Parameters

The parameters come in the order of the store fields they are for, those for no field last; among
equals the order of declaration stays. -/

section Parameters

variable {α : Type}

/-- The member of another type with the same store name, or else with the same name. -/
def EntityDef.counterpart? (e : EntityDef α) (m : MemberDef α) : Option Nat :=
  (e.members.findIdx? fun n => Text.sameName n.fieldName m.fieldName).or (e.memberNamed? m.name)

/-- The entity that parameters are read through, when it is not the parameter type itself. -/
def TypeDef.through? (source : TypeDef α) (p : Fingerprint) : Option (EntityDef α) :=
  match source with
  | .entity e => if p.source = some p.target then none else some e
  | .scalar _ => none

/-- The binding of one member. -/
def MemberDef.parameterBinding (m : MemberDef α) (i : Nat) (source : Option (EntityDef α))
    (fields : List Field) : ParameterBinding :=
  ⟨i, source.bind (·.counterpart? m), Field.positionOf? fields m.fieldName⟩

/-- Whether a binding does not come after another one. -/
def ParameterBinding.before (fields : List Field) (a b : ParameterBinding) : Bool :=
  a.field.getD fields.length ≤ b.field.getD fields.length

/-- How a type is read into parameters. -/
def TypeDef.analyzeParameters (d source : TypeDef α) (p : Fingerprint) :
    Result (List ParameterBinding) := do
  p.checkUnique
  match d with
  | .scalar _ => .error (p.shapeMismatch .scalarParameters)
  | .entity e =>
    let through := source.through? p
    let bindings := e.members.zipIdx.map fun (m, i) => m.parameterBinding i through p.fields
    if bindings.isEmpty then .error (p.bindingFailure (.noMembers e.name))
    else .ok (bindings.mergeSort (ParameterBinding.before p.fields))

end Parameters

end RowBinding
