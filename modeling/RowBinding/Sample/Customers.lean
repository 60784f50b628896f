import RowBinding.Sample.Checks
import RowBinding.Sample.Cents
/-!
# A run with customers

Customers are filled member by member.  The run follows the routines through the cache: the same
shape gives the same routine, and a hook that is registered drops the routines made without it.
It has to be the first to use the mapper.
-/
namespace RowBinding.Sample

def customerFields : List Field :=
  Field.arranged
    [(longColumn "id").primary, (textColumn "customer_name").notNull, textColumn "email",
      column "active" .boolean, column "external_id" .uuid, textColumn "segment"]

/-- An identifier of the random kind. -/
def externalId : Value :=
  .datum (.uuid ⟨[0x5e, 0x0d, 0x93, 0xb7, 0x21, 0x6c, 0x4f, 0x8a, 0x9b, 0x3e, 0x70, 0xc4, 0x18, 0xd2,
    0xa5, 0x66], by decide⟩)

/-- The member that is read-only is never assigned. -/
def memberByMember : Run (Published (RowRoutine Object)) := do
  let routine ← Job.succeeds (Mapper.compileRow customerName customerFields)
  Job.require (routine.routine.plan.mode = .memberInit)
  let found ← callRecord routine.routine
    [long 1, text " Ada ", text "ada@example.com", .boolean true, externalId, text "retail"]
  let expected := startWith customer
    [long 1, text " Ada ", text "ada@example.com", .boolean true, externalId, text "",
      .null (.float .double)]
  Job.require (sameRecord found expected)
  return routine

def sameShapeSameRoutine (routine : Published (RowRoutine Object)) : Run Unit := do
  let again ← Job.succeeds (Mapper.compileRow customerName customerFields)
  Job.require (routine.serial = again.serial)
  let stats := (← Job.get).stats
  Job.require (stats.compilations = 1)
  Job.require (stats.entries = 1)

/-- A NULL is missing where it may be, and the zero value elsewhere. -/
def missingValues : Run Unit := do
  let r ← readRecord customerName customerFields
    [long 2, text "Grace", .null .varchar, .untyped, .null .uuid, .untyped]
  requireField r "email" (.null .varchar)
  requireField r "active" (.boolean false)
  requireField r "external_id" (.null .uuid)

/-- Fields are found by their aliases without regard to case; one that nothing names is ignored. -/
def aliasedFields : Run Unit := do
  let fields := Field.arranged
    [(column "c" (.integer .int32)).withAlias "ID", textColumn "Customer_Name",
      column "unrelated" (.float .double)]
  let r ← readRecord customerName fields [number .int32 3, text "Linus", ratio .double 3 2]
  requireField r "id" (long 3)
  requireField r "name" (text "Linus")

def hookedReading : Run Unit := do
  Job.succeeds (Mapper.addObjectHook customerName trimNames false)
  Job.require ((← entries) = 0)
  let r ← readRecord customerName customerFields
    [long 4, text "  Barbara ", .untyped, .boolean false, .untyped, .untyped]
  requireField r "name" (text "Barbara")
  Job.fails (·.isRegistrationConflict) (Mapper.addObjectHook customerName trimNames false)

def wholesaler : Record :=
  startWith customer
    [long 5, text "Edsger", .null .varchar, .boolean true, .null .uuid, text "wholesale",
      ratio .double 1 2]

/-- A member that is skipped has no parameter, one that is read-only has. -/
def boundInMemberOrder : Run Unit := do
  let ps ← bound customerName wholesaler []
  Job.require (ps.map (·.name) =
    ["id", "customer_name", "email", "active", "external_id", "segment"])
  requireParameter ps 1 fun p => p.value.agrees (text "Edsger")
  requireParameter ps 1 fun p => p.storage == some .string
  requireParameter ps 2 fun p => p.value.agrees (.null .varchar)
  requireParameter ps 4 fun p => p.storage == some .guid

/-- The members that the store does not name come last. -/
def boundInStoreOrder : Run Unit := do
  Job.succeeds (Mapper.addTypeStorage .varchar .ansiString false)
  let store := Field.arranged
    [textColumn "segment", textColumn "customer_name", (longColumn "id").primary]
  let command ← Job.succeeds (Mapper.bindToFields
    (.ofText "INSERT INTO customer VALUES (?, ?, ?)") customerName (.record wholesaler) store)
  Job.require (command.parameters.map (·.name) =
    ["segment", "customer_name", "id", "email", "active", "external_id"])
  let storage (name : String) := (command.parameter? name).bind (·.storage)
  Job.require (storage "CUSTOMER_NAME" = some .ansiString)
  Job.require (storage "id" = some .int64)

/-- The run with customers. -/
def customers : Run Unit := do
  sameShapeSameRoutine (← memberByMember)
  missingValues
  aliasedFields
  hookedReading
  boundInMemberOrder
  boundInStoreOrder

end RowBinding.Sample
