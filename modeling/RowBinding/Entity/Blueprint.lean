import RowBinding.Entity.Definition
/-!
# Blueprints

A blueprint defines an entity by data alone.  Its objects keep the values of their members, and
remember which constructor built them and from which arguments.
-/
namespace RowBinding

/-- A member of a blueprint. -/
structure BlueprintMember where
  name : String
  type : NativeType
  mappedName : Option String
  readOnly : Bool
  deriving DecidableEq

/-- A constructor of a blueprint.  It may be made to fail. -/
structure BlueprintConstructor where
  name : String
  params : List (String × NativeType)
  failure : Option String
  deriving DecidableEq

/-- An entity described by data. -/
structure Blueprint where
  name : String
  members : List BlueprintMember
  constructors : List BlueprintConstructor
  deriving DecidableEq

/-- An object of a blueprint. -/
structure Assembly where
  /-- The constructor. -/
  built : String
  arguments : List Value
  members : List Value
  deriving DecidableEq

namespace Assembly

/-- The value of a member. -/
def get (a : Assembly) (i : Nat) : Value := a.members[i]?.getD .untyped

/-- With the value of a member replaced. -/
def set (a : Assembly) (i : Nat) (v : Value) : Assembly := { a with members := a.members.set i v }

end Assembly

namespace Blueprint

/-- The object a constructor starts with: each member missing if it may be, and zero otherwise. -/
def start (b : Blueprint) (built : String) : Assembly :=
  ⟨built, [], b.members.map fun m => m.type.start⟩

/-- An object with one more argument, which goes into the first member of the parameter's exact
name. -/
def accept (b : Blueprint) (a : Assembly) (param : String) (v : Value) : Assembly :=
  let taken := { a with arguments := a.arguments ++ [v] }
  match b.members.findIdx? (·.name == param) with
  | some i => taken.set i v
  | none => taken

/-- Takes the arguments of some parameters, from a position on. -/
def takeAll (b : Blueprint) : Assembly → Nat → List (String × NativeType) → ArgsReader Assembly
  | a, _, [] => return a
  | a, i, (name, t) :: rest => do
    let v ← Args.takeStored t i
    b.takeAll (b.accept a name v) (i + 1) rest

/-- Builds an object; a constructor that is made to fail does so at the end. -/
def build (b : Blueprint) (c : BlueprintConstructor) : ArgsReader Assembly := do
  let a ← b.takeAll (b.start c.name) 0 c.params
  match c.failure with
  | some message => throw (.custom message)
  | none => return a

def constructorDef (b : Blueprint) (c : BlueprintConstructor) : ConstructorDef Assembly where
  name := c.name
  params := c.params.map fun (name, t) => .ofNative name t
  build := Args.feed (b.build c)

def memberDef (m : BlueprintMember) (i : Nat) : MemberDef Assembly where
  name := m.name
  mappedName := m.mappedName
  type := m.type.valueType
  nullable := m.type.nullable
  get := (·.get i)
  set := if m.readOnly then none else some fun a v => (m.type.store v).map (a.set i)

/-- The definition of the entity. -/
def entity (b : Blueprint) : EntityDef Assembly where
  name := b.name
  constructors := b.constructors.map b.constructorDef
  members := b.members.zipIdx.map fun (m, i) => memberDef m i

end Blueprint

end RowBinding
