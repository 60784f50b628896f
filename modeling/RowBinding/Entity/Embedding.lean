import RowBinding.Entity.Definition
/-!
# Objects of several types

A mapper works with objects of one type.  The definitions of several types are brought together by
embedding each of them into a common type of objects.  An object that does not come from the
embedded type has no value in any of its members, and to set one is a fault of the program.
-/
namespace RowBinding

variable {α β : Type}

def ConstructorDef.embed (inject : β → α) (c : ConstructorDef β) : ConstructorDef α :=
  ⟨c.name, c.params, fun args => (c.build args).map inject⟩

def MemberDef.embed (inject : β → α) (project : α → Option β) (m : MemberDef β) : MemberDef α where
  name := m.name
  mappedName := m.mappedName
  type := m.type
  nullable := m.nullable
  get := fun a => ((project a).map m.get).getD .untyped
  set := m.set.map fun set a v =>
    match project a with
    | some b => (set b v).map inject
    | none => .error .abort

def EntityDef.embed (inject : β → α) (project : α → Option β) (e : EntityDef β) : EntityDef α where
  name := e.name
  constructors := e.constructors.map (·.embed inject)
  members := e.members.map (·.embed inject project)

end RowBinding
