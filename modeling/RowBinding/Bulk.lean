import RowBinding.Mapper.Basic
/-!
# Bulk tables

A bulk table stages rows for a bulk operation.  Built from objects, it has the columns and the
values that the parameters of each object would have had one by one.  **Every row has as many
values as the table has columns**; a row of another length is refused.
-/
namespace RowBinding

/-- Rows under common fields. -/
structure BulkTable where
  fields : List Field
  rows : List (List Value)
  deriving DecidableEq

namespace BulkTable

variable {α : Type}

def empty (fields : List Field) : BulkTable := ⟨fields, []⟩

def size (t : BulkTable) : Nat := t.rows.length

def isEmpty (t : BulkTable) : Bool := t.rows.isEmpty

/-- With a row appended. -/
def push (t : BulkTable) (row : List Value) : Result BulkTable :=
  if row.length = t.fields.length then .ok { t with rows := t.rows ++ [row] }
  else
    .error (.shapeMismatch "bulk table" (Numeral.text row.length ++ " values")
      (.tableSize t.fields.length))

/-- The rows with their fields. -/
def toRows (t : BulkTable) : List Row := t.rows.map fun values => ⟨t.fields, values⟩

/-! ## From objects -/

/-- The column of a parameter; a store field of its name lends it its flags. -/
def columnFor (store : List Field) (op : Operation) : Field :=
  let column := Field.column op.name op.type
  match store.find? (·.isNamed op.name) with
  | none => column
  | some f =>
    { column with nullable := f.nullable, isPrimary := f.isPrimary, isIdentity := f.isIdentity }

/-- The columns of a parameter routine. -/
def columns (store : List Field) (plan : Plan) : List Field :=
  Field.arranged (plan.operations.map (columnFor store))

/-- The row of an object. -/
def rowOf (r : ParameterRoutine α) (object : α) : Result (List Value) :=
  (r.call object).map fun ps => ps.map (·.value)

/-- One row per object. -/
def ofEntities (target : TypeName) (objects : List α) (store : List Field) :
    Job (Mapper α) BulkTable := do
  let r := (← Mapper.compileParameters target target store).routine
  let rows ← Job.ofResult (objects.mapM (rowOf r))
  Job.report .debug ("Staged " ++ Numeral.text rows.length ++ " rows of `" ++ target ++
    "` in a bulk table")
  return ⟨columns store r.plan, rows⟩

/-! ## From keys -/

/-- The shape that a table without a key is reported with: its labels. -/
def labels (fields : List Field) : String :=
  "(" ++ Text.joined ", " (fields.map Field.label) ++ ")"

/-- The table of the keys alone. -/
def singleColumn (store : List Field) (keys : List Value) : Result BulkTable :=
  match Field.key? store with
  | none => .error (.binding "bulk key table" (labels store) .noKey)
  | some key =>
    keys.foldlM (fun t v => do t.push [← v.convert key.type]) (empty [{ key with ordinal := 0 }])

end BulkTable

end RowBinding
