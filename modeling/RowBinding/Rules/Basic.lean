import RowBinding.Rules.Registry
import RowBinding.Entity.Definition
import RowBinding.Settings
/-!
# Conversion rules

Rules change how values are adapted on their way: a handler for one member of a type, a hook for
all the objects of a type, a storage type for a member or for a value type.  They are read while a
routine is compiled and not while it runs.

An entry may be replaced only when the caller insists.  Without that a second handler or hook is
refused, and so is a storage type that differs from the one already there.
-/
namespace RowBinding

/-- A conversion attached to a member. -/
structure ValueHandler where
  /-- The type of the value as it is stored; it takes the place of the member's type. -/
  storage : ValueType
  /-- From the stored value to the member's value. -/
  get : Value → Result Value
  /-- From the member's value to the stored value. -/
  set : Value → Result Value

/-- What happens to every object of a type after it has been built. -/
abbrev ObjectHook (α : Type) := α → Result α

/-- A member of a type, its name without case. -/
abbrev MemberKey := TypeName × List Char

def memberKey (owner : TypeName) (member : String) : MemberKey := (owner, Text.folded member)

/-- The rules of a mapper. -/
structure Rules (α : Type) where
  settings : Settings
  valueHandlers : Registry MemberKey ValueHandler
  objectHooks : Registry TypeName (ObjectHook α)
  memberStorage : Registry MemberKey StorageType
  typeStorage : Registry ValueType StorageType

namespace Rules

variable {α : Type}

/-- No rules but the settings. -/
def ofSettings (s : Settings) : Rules α := ⟨s, .empty, .empty, .empty, .empty⟩

/-- Whether nothing is registered. -/
def isEmpty (r : Rules α) : Bool :=
  r.valueHandlers.isEmpty && r.objectHooks.isEmpty && r.memberStorage.isEmpty &&
    r.typeStorage.isEmpty

/-! ## Looking up -/

def valueHandler? (r : Rules α) (owner : TypeName) (member : String) : Option ValueHandler :=
  r.valueHandlers.find? (memberKey owner member)

def objectHook? (r : Rules α) (owner : TypeName) : Option (ObjectHook α) :=
  r.objectHooks.find? owner

def memberStorage? (r : Rules α) (owner : TypeName) (member : String) : Option StorageType :=
  r.memberStorage.find? (memberKey owner member)

def typeStorage? (r : Rules α) (t : ValueType) : Option StorageType := r.typeStorage.find? t

/-! ## Registering -/

def addValueHandler (r : Rules α) (owner : TypeName) (member : String) (handler : ValueHandler)
    (force : Bool) : Result (Rules α) :=
  if !force && (r.valueHandler? owner member).isSome then
    .error (.registrationConflict (.valueHandler owner member))
  else
    .ok { r with valueHandlers := r.valueHandlers.insert (memberKey owner member) handler }

/-- Without the handler of a member, and whether there was one. -/
def removeValueHandler (r : Rules α) (owner : TypeName) (member : String) : Bool × Rules α :=
  ((r.valueHandler? owner member).isSome,
    { r with valueHandlers := r.valueHandlers.erase (memberKey owner member) })

def addObjectHook (r : Rules α) (owner : TypeName) (hook : ObjectHook α) (force : Bool) :
    Result (Rules α) :=
  if !force && (r.objectHook? owner).isSome then
    .error (.registrationConflict (.objectHook owner))
  else .ok { r with objectHooks := r.objectHooks.insert owner hook }

/-- The storage type that stands in the way of another one. -/
def contrary? (force : Bool) (existing : Option StorageType) (new : StorageType) :
    Option StorageType :=
  if force then none else existing.filter (· ≠ new)

def addMemberStorage (r : Rules α) (owner : TypeName) (member : String) (storage : StorageType)
    (force : Bool) : Result (Rules α) :=
  match contrary? force (r.memberStorage? owner member) storage with
  | some existing => .error (.registrationConflict (.memberStorage existing owner member))
  | none => .ok { r with memberStorage := r.memberStorage.insert (memberKey owner member) storage }

def addTypeStorage (r : Rules α) (t : ValueType) (storage : StorageType) (force : Bool) :
    Result (Rules α) :=
  match contrary? force (r.typeStorage? t) storage with
  | some existing => .error (.registrationConflict (.typeStorage existing t))
  | none => .ok { r with typeStorage := r.typeStorage.insert t storage }

end Rules

end RowBinding
