import RowBinding.Sample.Cents
/-!
# Hooks described by data

The simplest hooks need no code of their own: they pass the object on, fail, or change one thing
in it.
-/
namespace RowBinding.Sample

/-- What a hook does. -/
inductive ObjectStep where
  | pass
  | fail (message : String)
  /-- Stores a value in a member of an assembly as it is. -/
  | assign (member : Nat) (v : Value)
  /-- Trims the names of customers. -/
  | trim
  /-- Puts another scalar in the place of the scalar. -/
  | replace (t : NativeType) (v : Value)
  deriving DecidableEq

def ObjectStep.apply : ObjectStep → ObjectHook Object
  | pass, o => .ok o
  | fail message, _ => .error (.custom message)
  | assign member v, .assembly a => .ok (.assembly (a.set member v))
  | assign _ _, o => .ok o
  | trim, o => trimNames o
  | replace t v, _ => (t.store v).map .scalar

end RowBinding.Sample
