import RowBinding.Bulk
import RowBinding.Sample.Orders
/-!
# A run with bulk tables

Orders go into a table and come back.  Rows whose names differ in case alone share one routine,
and a key table has the primary or the identity field for its column.
-/
namespace RowBinding.Sample

/-- The records of rows, each of which must be readable. -/
def readRecords (target : TypeName) (rows : List Row) : Run (List Record) := do
  (← Job.succeeds (Mapper.readEvery target rows)).mapM Object.asRecord

def ordersThereAndBack : Run Unit := do
  let table ← Job.succeeds
    (BulkTable.ofEntities orderName (sampleOrders.map Object.record) orderFields)
  Job.require (table.size = sampleOrders.length)
  Job.require (table.fields.map (·.name) =
    ["id", "customer_id", "status", "quantity", "total", "placed_at"])
  Job.require (table.fields[0]?.any (·.isPrimary))
  Job.require (table.fields[2]?.any (·.type = .varchar))
  Job.require ((table.rows[1]?.bind (·[2]?)).any (·.agrees (text "Shipped")))
  let found ← readRecords orderName table.toRows
  Job.require (found.length = sampleOrders.length &&
    (found.zip sampleOrders).all fun (r, s) => sameRecord r s)

/-- The routine is looked up once for the three rows. -/
def oneRoutine : Run Unit := do
  let upper := Field.arranged [longColumn "ID", column "Quantity" (.integer .int32)]
  let lower := Field.arranged [longColumn "id", column "quantity" (.integer .int32)]
  let before := (← Job.get).stats
  let found ← readRecords orderName
    [⟨upper, [long 7, number .int32 2]⟩, ⟨lower, [long 8, number .int32 4]⟩,
      ⟨upper, [long 9, number .int32 6]⟩]
  Job.require (found.length = 3)
  for (r, id, quantity) in found.zip [(7, 2), (8, 4), (9, 6)] do
    requireField r "id" (long id)
    requireField r "quantity" (number .int32 quantity)
  let after := (← Job.get).stats
  Job.require (after.compilations + after.hits = before.compilations + before.hits + 1)

def keyTables : Run Unit := do
  let store := Field.arranged [textColumn "code", (longColumn "id").identity]
  let keys ← Job.succeeds
    (Job.ofResult (BulkTable.singleColumn store [number .int32 1, text "2"]))
  Job.require (keys.fields.map (·.name) = ["id"])
  Job.require ((keys.rows[0]?.bind (·[0]?)).any (·.agrees (long 1)))
  Job.require ((keys.rows[1]?.bind (·[0]?)).any (·.agrees (long 2)))
  Job.fails (·.isBinding) (Job.ofResult
    (BulkTable.singleColumn (Field.arranged [textColumn "code"]) [number .int32 1]))

def wrongSizeRefused : Run Unit := do
  let table := BulkTable.empty orderFields
  Job.require table.isEmpty
  Job.fails (fun _ => true) (Job.ofResult (table.push [long 1]))

/-- The run with bulk tables. -/
def tables : Run Unit := do
  ordersThereAndBack
  oneRoutine
  keyTables
  wrongSizeRefused

end RowBinding.Sample
