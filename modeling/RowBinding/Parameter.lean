import RowBinding.Value.Basic
import RowBinding.StorageType
/-!
# Parameters

A parameter is a named value with the tag that the store is to give it.  A command is a query text
with the parameters that have been bound to it so far; binding appends and never replaces.
-/
namespace RowBinding

/-- A named parameter. -/
structure Parameter where
  name : String
  value : Value
  /-- Without one the type of the value decides. -/
  storage : Option StorageType
  deriving DecidableEq

/-- The type of the value, or that of its tag when the value has none. -/
def Parameter.type? (p : Parameter) : Option ValueType :=
  p.value.type?.or (p.storage.bind (·.valueType?))

/-- A query with its parameters. -/
structure Command where
  text : String
  parameters : List Parameter
  deriving DecidableEq

namespace Command

/-- A query without parameters. -/
def ofText (text : String) : Command := ⟨text, []⟩

def append (c : Command) (ps : List Parameter) : Command :=
  { c with parameters := c.parameters ++ ps }

/-- The first parameter with a name. -/
def parameter? (c : Command) (name : String) : Option Parameter :=
  c.parameters.find? fun p => Text.sameName p.name name

def clear (c : Command) : Command := { c with parameters := [] }

end Command

end RowBinding
