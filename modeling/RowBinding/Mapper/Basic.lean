import RowBinding.Mapper.Cache
import RowBinding.Routine.Parameters
/-!
# The mapper

A mapper compiles routines for shapes, keeps them, and runs them.  Rules are read while a routine
is compiled, so **every accepted change of the rules drops all the routines** that were compiled
before it; a refused change leaves the routines and the rules as they were.
-/
namespace RowBinding

/-- The two kinds of routines. -/
inductive Routine (α : Type) where
  | row (r : RowRoutine α)
  | parameters (r : ParameterRoutine α)

namespace Routine

variable {α : Type}

def row? : Routine α → Option (RowRoutine α)
  | row r => some r
  | parameters _ => none

def parameters? : Routine α → Option (ParameterRoutine α)
  | parameters r => some r
  | row _ => none

end Routine

/-- The types a mapper knows, its rules and its routines. -/
structure Mapper (α : Type) where
  schema : Schema α
  rules : Rules α
  cache : FunctionCache (Routine α)

/-- The counters of a cache, as they are shown. -/
structure CacheStats where
  entries : Nat
  compilations : Nat
  hits : Nat
  deriving DecidableEq, Repr

namespace Mapper

variable {α β : Type}

/-- A mapper without rules and routines. -/
def ofSettings (schema : Schema α) (s : Settings) : Mapper α := ⟨schema, .ofSettings s, .empty⟩

def stats (m : Mapper α) : CacheStats := ⟨m.cache.size, m.cache.compilations, m.cache.hits⟩

def settings (m : Mapper α) : Settings := m.rules.settings

/-- Runs a computation on the cache. -/
def onCache (job : Job (FunctionCache (Routine α)) β) : Job (Mapper α) β :=
  job.onPart Mapper.cache fun c m => { m with cache := c }

/-! ## Changing the rules -/

/-- Drops the routines, if there are any, and reports it. -/
def dropRoutines : Job (Mapper α) Unit := do
  let m ← Job.get
  if 0 < m.cache.size then
    Job.report .warn ("Conversion rules changed, dropping " ++ Numeral.text m.cache.size ++
      " compiled routines")
    Job.set { m with cache := m.cache.reset }

/-- Applies a change of the rules and drops the routines compiled under the old ones. -/
def updateRules (change : Rules α → Result (β × Rules α)) : Job (Mapper α) β := do
  let m ← Job.get
  let (b, rules) ← Job.ofResult (change m.rules)
  Job.set { m with rules := rules }
  dropRoutines
  return b

/-- A change of the rules without a result of its own. -/
def changeRules (change : Rules α → Result (Rules α)) : Job (Mapper α) Unit :=
  updateRules fun r => (change r).map fun s => ((), s)

def setSettings (s : Settings) : Job (Mapper α) Unit :=
  changeRules fun r => .ok { r with settings := s }

def addValueHandler (owner : TypeName) (member : String) (handler : ValueHandler) (force : Bool) :
    Job (Mapper α) Unit :=
  changeRules (·.addValueHandler owner member handler force)

/-- Removes a handler and tells whether there was one. -/
def removeValueHandler (owner : TypeName) (member : String) : Job (Mapper α) Bool :=
  updateRules fun r => .ok (r.removeValueHandler owner member)

def addObjectHook (owner : TypeName) (hook : ObjectHook α) (force : Bool) : Job (Mapper α) Unit :=
  changeRules (·.addObjectHook owner hook force)

def addMemberStorage (owner : TypeName) (member : String) (storage : StorageType) (force : Bool) :
    Job (Mapper α) Unit :=
  changeRules (·.addMemberStorage owner member storage force)

def addTypeStorage (t : ValueType) (storage : StorageType) (force : Bool) : Job (Mapper α) Unit :=
  changeRules (·.addTypeStorage t storage force)

/-- Drops the routines without a report. -/
def resetCache : Job (Mapper α) Unit := do
  let m ← Job.get
  Job.set { m with cache := m.cache.reset }

/-! ## Compiling -/

/-- The routine that reads rows of these fields into a type. -/
def compileRow (target : TypeName) (fields : List Field) :
    Job (Mapper α) (Published (RowRoutine α)) := do
  let m ← Job.get
  onCache (FunctionCache.getOrCompile Routine.row? Routine.row (.rowToObject target fields)
    (RowRoutine.compile m.schema m.rules))

/-- The routine that reads a type into parameters for these store fields, under the rules of an
entity type as well. -/
def compileParameters (target source : TypeName) (fields : List Field) :
    Job (Mapper α) (Published (ParameterRoutine α)) := do
  let m ← Job.get
  onCache (FunctionCache.getOrCompile Routine.parameters? Routine.parameters
    (.objectToParameters target source fields) (ParameterRoutine.compile m.schema m.rules))

/-! ## Reading -/

/-- Reads one row. -/
def read (target : TypeName) (row : Row) : Job (Mapper α) α := do
  let r ← compileRow target row.fields
  Job.ofResult (r.routine.call row)

/-- The routine for a row: the one of the row before if the shape is the same. -/
def routineFor (target : TypeName) (current : Option (RowRoutine α)) (row : Row) :
    Job (Mapper α) (RowRoutine α) :=
  match current with
  | some r =>
    if r.fingerprint.same (.rowToObject target row.fields) then pure r
    else do return (← compileRow target row.fields).routine
  | none => do return (← compileRow target row.fields).routine

/-- Turns the failure of a computation into its result; an abort stays one. -/
def attempt (job : Job (Mapper α) β) : Job (Mapper α) (Result β) :=
  tryCatch (do return .ok (← job)) fun e => if e.isAbort then throw e else return .error e

/-- Reads a row, and says which routine the row after it is offered.  A row that fails to compile
leaves the routine of the row before. -/
def readNext (target : TypeName) (current : Option (RowRoutine α)) (row : Row) :
    Job (Mapper α) (Result α × Option (RowRoutine α)) := do
  match ← attempt (routineFor target current row) with
  | .error e => return (.error e, current)
  | .ok r => return (← attempt (Job.ofResult (r.call row)), some r)

/-- Reads rows one after the other, going on after a row that fails. -/
def readAllFrom (target : TypeName) :
    (current : Option (RowRoutine α)) → List Row → Job (Mapper α) (List (Result α))
  | _, [] => return []
  | current, row :: rows => do
    let (first, next) ← readNext target current row
    return first :: (← readAllFrom target next rows)

/-- Reads rows; a routine is looked up only where the shape changes. -/
def readAll (target : TypeName) (rows : List Row) : Job (Mapper α) (List (Result α)) :=
  readAllFrom target none rows

/-- Reads rows one after the other up to the first that fails, which fails the whole. -/
def readEveryFrom (target : TypeName) :
    (current : Option (RowRoutine α)) → List Row → Job (Mapper α) (List α)
  | _, [] => return []
  | current, row :: rows => do
    let (first, next) ← readNext target current row
    let object ← Job.ofResult first
    return object :: (← readEveryFrom target next rows)

/-- The objects of all the rows, if every one can be read. -/
def readEvery (target : TypeName) (rows : List Row) : Job (Mapper α) (List α) :=
  readEveryFrom target none rows

/-! ## Binding -/

/-- The parameters of an object in the order of the store fields. -/
def parametersFor (target : TypeName) (object : α) (fields : List Field) :
    Job (Mapper α) (List Parameter) := do
  let r ← compileParameters target target fields
  Job.ofResult (r.routine.call object)

/-- A command with the parameters of an object appended. -/
def bindToFields (command : Command) (target : TypeName) (object : α) (fields : List Field) :
    Job (Mapper α) Command := do
  return command.append (← parametersFor target object fields)

/-- A command with the parameters of an object appended in the order of its members. -/
def bind (command : Command) (target : TypeName) (object : α) : Job (Mapper α) Command :=
  bindToFields command target object []

end Mapper

end RowBinding
