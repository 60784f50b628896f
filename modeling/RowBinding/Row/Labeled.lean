import RowBinding.Row.Field
import RowBinding.Value.Basic
/-!
# Rows

A row is a list of values with the fields they belong to, matched by position.  Reading a row moves
values out of it, and what has been moved out leaves an untyped NULL behind.
-/
namespace RowBinding

/-- A row with its fields. -/
structure Row where
  fields : List Field
  values : List Value
  deriving DecidableEq

namespace Row

/-- A row of named values.  A value declares the type of its field; the untyped NULL declares
text. -/
def ofNamed (values : List (String × Value)) : Row where
  fields := Field.arranged (values.map fun (name, v) => .column name (v.type?.getD .varchar))
  values := values.map Prod.snd

/-- The value at a position. -/
def get? (row : Row) (i : Nat) : Option Value := row.values[i]?

/-- The value of the first field found by a name. -/
def named? (row : Row) (name : String) : Option Value :=
  (Field.positionOf? row.fields name).bind row.get?

/-- The value at a position, moved out. -/
def take (row : Row) (i : Nat) : Option Value × Row :=
  (row.get? i, { row with values := row.values.set i .untyped })

end Row

end RowBinding
