import RowBinding.Sample.Checks
/-!
# A run with accounts

Accounts have three constructors and no default, and which of them is used shows in the account.
The run ends with scalars, and with shapes that cannot be read at all.
-/
namespace RowBinding.Sample

def accountFields : List Field :=
  Field.arranged
    [longColumn "id", textColumn "owner", column "balance" .decimal, textColumn "note"]

/-- All the parameters of the largest constructor are there. -/
def largestConstructor : Run Unit := do
  let routine := (← Job.succeeds (Mapper.compileRow accountName accountFields)).routine
  Job.require (routine.plan.mode = .constructorArgs)
  Job.require (routine.plan.arity = 3)
  let r ← callRecord routine [long 10, text "Ada", amount 1250 2, text "vip"]
  requireField r "built_with" (text "new")
  requireField r "balance" (amount 125 1)
  requireField r "note" (text "vip")

/-- Only the parameter of a smaller one is; the other fields are assigned. -/
def smallerConstructor : Run Unit := do
  let fields := Field.arranged
    [textColumn "note", textColumn "OWNER", column "id" (.integer .int32)]
  let r ← readRecord accountName fields [.null .varchar, text "Grace", number .int32 11]
  requireField r "built_with" (text "with_id")
  requireField r "id" (long 11)
  requireField r "owner" (text "Grace")
  requireField r "note" (.null .varchar)

/-- No parameter is. -/
def emptyConstructor : Run Unit := do
  let r ← readRecord accountName (Field.arranged [textColumn "note"]) [text "memo"]
  requireField r "built_with" (text "empty")
  requireField r "note" (text "memo")

def nothingBound : Run Unit := do
  let unrelated := Field.arranged [column "unrelated" (.integer .int32)]
  Job.fails (·.isNothingBound) (Mapper.compileRow accountName unrelated)
  Job.fails (·.isNothingBound) (Mapper.compileRow accountName [])
  Job.fails (·.isNothingBound) (Mapper.compileRow currencyName unrelated)

/-- A member that is read-only may still be an argument. -/
def readOnlyArgument : Run Unit := do
  let r ← readRecord currencyName (Field.arranged [textColumn "code"]) [text "EUR"]
  Job.require (sameRecord r (makeCurrency "new" [text "EUR"]))

/-- A scalar has exactly one field. -/
def scalars : Run Unit := do
  let count := Field.arranged [longColumn "count"]
  let n ← readScalar uint32 count [long 42]
  Job.require (n.agrees (number .uint32 42))
  let s ← readScalar (.option string) count [.null (.integer .int64)]
  Job.require s.isNull
  Job.fails (·.isShapeMismatch) (Mapper.compileRow int64.typeName accountFields)

/-- A shape that is refused leaves nothing in the cache. -/
def refusalsNotKept : Run Unit := do
  let before ← entries
  Job.fails (fun _ => true) (Mapper.compileRow int64.typeName accountFields)
  Job.require ((← entries) = before)

/-- The run with accounts. -/
def accounts : Run Unit := do
  largestConstructor
  smallerConstructor
  emptyConstructor
  nothingBound
  readOnlyArgument
  scalars
  refusalsNotKept

end RowBinding.Sample
