import RowBinding.Sample.Checks
import RowBinding.Sample.Cents
/-!
# A run with orders

An order holds an enumeration, which is read by name or by discriminant and written as the rules
say, and an amount of money, which a handler stores as cents.
-/
namespace RowBinding.Sample

def orderFields : List Field :=
  Field.arranged
    [(longColumn "id").primary, (longColumn "customer_id").notNull, (textColumn "status").notNull,
      (column "quantity" (.integer .int32)).notNull, (column "total" .decimal).notNull,
      column "placed_at" .timestamp]

def orderOf (id customerId state quantity : Int) (total placedAt : Value) : Record :=
  startWith order [long id, long customerId, status state, number .int32 quantity, total, placedAt]

def march : Value := timestamp 2024 3 1 10 30 0
def newYearsEve : Value := timestamp 2023 12 31 23 59 59
def january : Value := timestamp 2024 1 2 3 4 5

def firstOrder : Record := orderOf 1 10 1 3 (amount 1999 2) march
def secondOrder : Record := orderOf 2 10 2 1 (amount 500 2) (.null .timestamp)
def thirdOrder : Record := orderOf 3 11 3 12 (amount 12010 2) newYearsEve

def sampleOrders : List Record := [firstOrder, secondOrder, thirdOrder]

/-- An enumeration is read by name. -/
def statusByName : Run Unit := do
  let r ← readRecord orderName orderFields
    [long 1, long 10, text "shipped", number .int32 2, amount 725 2, january]
  requireField r "status" (status 2)
  requireField r "placed_at" january

/-- An enumeration is read by discriminant, if a variant has it. -/
def statusByDiscriminant : Run Unit := do
  let fields := Field.arranged [longColumn "id", column "status" (.integer .int16)]
  let r ← readRecord orderName fields [long 2, number .int16 3]
  requireField r "status" (status 3)
  Job.fails (·.isConversion) (Mapper.read orderName ⟨fields, [long 2, number .int16 9]⟩)

/-- The settings say how enumerations are written, and the rule of a member comes before them. -/
def statusStorage : Run Unit := do
  let ps ← bound orderName secondOrder []
  requireParameter ps 2 fun p => p.name == "status"
  requireParameter ps 2 (isStoredAs (text "Shipped") .string)
  requireParameter ps 5 fun p => p.value.agrees (.null .timestamp)
  Job.succeeds (Mapper.setSettings { enumStorage := .int32 })
  requireParameter (← bound orderName secondOrder []) 2 (isStoredAs (number .int32 2) .int32)
  Job.succeeds (Mapper.addMemberStorage orderName "status" .byte false)
  requireParameter (← bound orderName secondOrder []) 2 (isStoredAs (number .uint8 2) .byte)

def centFields : List Field := Field.arranged [longColumn "id", longColumn "total"]

/-- The total is cents in both directions; a decimal field is taken for cents as well. -/
def totalInCents : Run Unit := do
  Job.succeeds (Mapper.addValueHandler orderName "total" cents false)
  let routine := (← Job.succeeds (Mapper.compileRow orderName centFields)).routine
  requireField (← callRecord routine [long 4, long 12345]) "total" (amount 12345 2)
  let r ← readRecord orderName orderFields
    [long 5, long 10, text "Pending", number .int32 1, amount 3 0, .untyped]
  requireField r "total" (amount 3 2)
  let ps ← bound orderName firstOrder []
  requireParameter ps 4 fun p => p.name == "total"
  requireParameter ps 4 (isStoredAs (long 1999) .int64)

/-- A second handler is refused unless it is insisted on; without one the total is a number. -/
def handlerReplaced : Run Unit := do
  Job.fails (·.isRegistrationConflict) (Mapper.addValueHandler orderName "TOTAL" cents false)
  Job.succeeds (Mapper.addValueHandler orderName "total" cents true)
  Job.require (← Mapper.removeValueHandler orderName "total")
  let r ← readRecord orderName centFields [long 4, long 12345]
  requireField r "total" (amount 12345 0)

/-- The run with orders. -/
def orders : Run Unit := do
  statusByName
  statusByDiscriminant
  statusStorage
  totalInCents
  handlerReplaced

end RowBinding.Sample
