import RowBinding.Plan.Basic
import RowBinding.Row.Labeled
/-!
# Routines that read rows

A row routine follows its plan.  It moves each value out of the row, adapts it and hands it to the
constructor, to a setter or to the scalar; when the object is complete the hook of its type sees
it.  **A failure on the way names the field it happened at**, or the constructor; the hook's own
failures are passed on as they are.
-/
namespace RowBinding

/-- Puts a failure into the context of a field of a target. -/
def Result.inField {α : Type} (target field : String) (r : Result α) : Result α :=
  r.mapError (Failure.inField target field)

/-- What moves values out of a row. -/
abbrev RowReader := StateT (List Value) Result

namespace Operation

/-- The adaptation of a value: its coercion, and after that the handler. -/
def adapt (op : Operation) (v : Value) : Result Value := do
  let v ← op.coercion.apply v
  match op.handler with
  | some h => h.get v
  | none => return v

/-- The value that an operation delivers for what stood in the row. -/
def deliver (op : Operation) (v : Value) : Result Value :=
  match v.isNull, op.onNull with
  | true, some replacement => .ok replacement
  | _, _ => op.adapt v

/-- Moves the value of an operation out of the row and delivers it. -/
def run (op : Operation) : RowReader Value := do
  let v := ((← get)[op.source]?).getD .untyped
  modify fun values => values.set op.source .untyped
  op.deliver v

end Operation

/-- What a row routine builds its result with. -/
inductive RowBody (α : Type) where
  | scalar (ofValue : Value → Result α)
  /-- A constructor with its name, and the setters of all members. -/
  | entity (name : String) (build : Args → Result α)
      (setters : List (Option (α → Value → Result α)))

/-- A compiled routine that reads rows of one shape. -/
structure RowRoutine (α : Type) where
  plan : Plan
  body : RowBody α
  hook : Option (ObjectHook α)

namespace RowRoutine

variable {α : Type}

def fingerprint (r : RowRoutine α) : Fingerprint := r.plan.fingerprint

/-- The routine shown as data. -/
def outline (r : RowRoutine α) : String :=
  Text.Outline.record "RowToObject"
    [("plan", r.plan.outline), ("hook", Text.Outline.bool r.hook.isSome)]

/-- The body for a plan. -/
def bodyOf (d : TypeDef α) (plan : Plan) : Result (RowBody α) :=
  match d with
  | .scalar s => .ok (.scalar s.ofValue)
  | .entity e =>
    match plan.selected.bind (e.constructors[·]?) with
    | some c => .ok (.entity c.name c.build (e.members.map (·.set)))
    | none => .error (.noConstructor plan.fingerprint.text)

/-- Compiles the routine of a shape under the given rules. -/
def compile (schema : Schema α) (rules : Rules α) (p : Fingerprint) : Result (RowRoutine α) := do
  let d := schema p.target
  let plan ← Plan.ofRow rules d p
  return ⟨plan, ← bodyOf d plan, rules.objectHook? p.target⟩

/-! ## Running -/

/-- Runs an operation and something on its value, in the context of its field. -/
def atField {β : Type} (target : TypeName) (op : Operation) (use : Value → Result β) :
    RowReader β :=
  fun values => Result.inField target op.name (do
    let (v, rest) ← op.run values
    return (← use v, rest))

/-- The arguments of the constructor, in order. -/
def gather (target : TypeName) (ops : List Operation) : RowReader (List Value) :=
  ops.mapM fun op => atField target op pure

/-- The setter that an operation goes to. -/
def setter? (setters : List (Option (α → Value → Result α))) (op : Operation) :
    Option (α → Value → Result α) :=
  match op.destination with
  | .member i => (setters[i]?).join
  | _ => none

/-- Assigns the value of one operation. -/
def assign (target : TypeName) (setters : List (Option (α → Value → Result α))) (object : α)
    (op : Operation) : RowReader α :=
  match setter? setters op with
  | some set => atField target op (set object)
  | none => pure object

/-- The object that a plan builds out of the values of a row. -/
def produce (plan : Plan) (body : RowBody α) : RowReader α :=
  let target := plan.fingerprint.target
  match body with
  | .scalar ofValue =>
    match plan.operations with
    | op :: _ => atField target op ofValue
    | [] => throw (.emptyPlan plan.fingerprint.text)
  | .entity name build setters => do
    let arguments ← gather target plan.arguments
    let object ← Result.inField target (name ++ "(..)") (build ⟨arguments⟩)
    plan.assignments.foldlM (assign target setters) object

/-- Builds the object of a row, whose fields must have the compiled shape. -/
def call (r : RowRoutine α) (row : Row) : Result α := do
  let p := r.fingerprint
  if row.values.length ≠ p.fields.length then
    throw (p.shapeMismatch (.rowSize row.values.length p.fields.length))
  let (object, _) ← (produce r.plan r.body).run row.values
  match r.hook with
  | some hook => hook object
  | none => return object

end RowRoutine

end RowBinding
