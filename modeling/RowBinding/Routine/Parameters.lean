import RowBinding.Routine.Row
import RowBinding.Parameter
/-!
# Routines that read objects into parameters

A parameter routine reads one member after the other, hands the value to its handler and adapts it
for the store.  **It delivers all the parameters or none**: a failure at any member leaves nothing
behind.
-/
namespace RowBinding

/-- A compiled routine that reads objects of one type. -/
structure ParameterRoutine (α : Type) where
  plan : Plan
  /-- By position of the member. -/
  getters : List (α → Value)

namespace ParameterRoutine

variable {α : Type}

def fingerprint (r : ParameterRoutine α) : Fingerprint := r.plan.fingerprint

/-- The routine shown as data. -/
def outline (r : ParameterRoutine α) : String :=
  Text.Outline.record "ObjectToParameters" [("plan", r.plan.outline)]

/-- Compiles the routine of a parameter type read through an entity type. -/
def compile (schema : Schema α) (rules : Rules α) (p : Fingerprint) :
    Result (ParameterRoutine α) := do
  let d := schema p.target
  let plan ← Plan.ofParameters rules d (schema (p.source.getD p.target)) p
  let getters :=
    match d with
    | .entity e => e.members.map (·.get)
    | .scalar _ => []
  return ⟨plan, getters⟩

/-- The value of a member on its way out: its handler, and after that the coercion. -/
def adapt (op : Operation) (v : Value) : Result Value := do
  let v ←
    match op.handler with
    | some h => h.set v
    | none => pure v
  op.coercion.apply v

/-- The storage type of an operation. -/
def storageOf (op : Operation) : Option StorageType :=
  match op.destination with
  | .parameter storage => storage
  | _ => none

/-- The parameter that an operation reads. -/
def parameter (target : TypeName) (object : α) (op : Operation) (get : α → Value) :
    Result Parameter := do
  let v ← Result.inField target op.name (adapt op (get object))
  return ⟨op.name, v, storageOf op⟩

/-- The parameters of some operations.  One without a getter delivers nothing. -/
def parameters (target : TypeName) (getters : List (α → Value)) (object : α) :
    List Operation → Result (List Parameter)
  | [] => .ok []
  | op :: ops =>
    match getters[op.source]? with
    | none => parameters target getters object ops
    | some get => do
      let p ← parameter target object op get
      return p :: (← parameters target getters object ops)

/-- The parameters of an object. -/
def call (r : ParameterRoutine α) (object : α) : Result (List Parameter) :=
  parameters r.fingerprint.target r.getters object r.plan.operations

end ParameterRoutine

end RowBinding
