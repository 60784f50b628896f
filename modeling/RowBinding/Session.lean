import RowBinding.Bulk
/-!
# Sessions

A session is a mapper in use.  Besides the mapper it holds the command that parameters are bound
to, and the routines and tables that were made, under names.  **A step that fails keeps nothing**:
what stood under its name before stays there.
-/
namespace RowBinding

/-- The same publication with the routine seen in another way. -/
def Published.map {ε β : Type} (f : ε → β) (p : Published ε) : Published β :=
  ⟨p.serial, f p.routine⟩

/-- A mapper with what was made with it. -/
structure Session (α : Type) where
  mapper : Mapper α
  command : Command
  routines : Registry String (Published (Routine α))
  tables : Registry String BulkTable

namespace Session

variable {α β : Type}

/-- A session in which nothing has been done. -/
def ofMapper (m : Mapper α) : Session α := ⟨m, .ofText "", .empty, .empty⟩

def onMapper (job : Job (Mapper α) β) : Job (Session α) β :=
  job.onPart Session.mapper fun m s => { s with mapper := m }

/-! ## Routines -/

/-- Keeps a routine, if there is a name for it. -/
def keepRoutine (name? : Option String) (r : Published (Routine α)) : Job (Session α) Unit := do
  match name? with
  | none => return
  | some name =>
    let s ← Job.get
    Job.set { s with routines := s.routines.insert name r }

/-- The routine kept under a name. -/
def routine (name : String) : Job (Session α) (Published (Routine α)) := do
  match (← Job.get).routines.find? name with
  | some r => return r
  | none => throw .unknownRoutine

def compileRow (target : TypeName) (fields : List Field) (name? : Option String) :
    Job (Session α) (RowRoutine α) := do
  let r ← onMapper (Mapper.compileRow target fields)
  keepRoutine name? (r.map .row)
  return r.routine

def compileParameters (target source : TypeName) (fields : List Field) (name? : Option String) :
    Job (Session α) (ParameterRoutine α) := do
  let r ← onMapper (Mapper.compileParameters target source fields)
  keepRoutine name? (r.map .parameters)
  return r.routine

/-- Whether two names stand for one routine. -/
def sameRoutine (a b : String) : Job (Session α) Bool := do
  return (← routine a).serial == (← routine b).serial

/-! ## Parameters -/

/-- Replaces the command by what a computation makes of it. -/
def onCommand (change : Command → Job (Session α) Command) : Job (Session α) (List Parameter) := do
  let command ← change (← Job.get).command
  Job.set { ← Job.get with command := command }
  return command.parameters

/-- Binds an object to the command. -/
def bind (target : TypeName) (object : α) (fields : List Field) :
    Job (Session α) (List Parameter) :=
  onCommand fun c => onMapper (Mapper.bindToFields c target object fields)

/-- Binds an object to the command by a routine that has been kept. -/
def bindBy (r : ParameterRoutine α) (object : α) : Job (Session α) (List Parameter) :=
  onCommand fun c => do return c.append (← Job.ofResult (r.call object))

def clearParameters : Job (Session α) Unit := do
  let _ ← onCommand fun c => return c.clear

/-! ## Tables -/

def keepTable (name : String) (t : BulkTable) : Job (Session α) BulkTable := do
  let s ← Job.get
  Job.set { s with tables := s.tables.insert name t }
  return t

/-- The table kept under a name. -/
def table (name : String) : Job (Session α) BulkTable := do
  match (← Job.get).tables.find? name with
  | some t => return t
  | none => throw .unknownTable

def tableOfEntities (name : String) (target : TypeName) (objects : List α) (store : List Field) :
    Job (Session α) BulkTable := do
  keepTable name (← onMapper (BulkTable.ofEntities target objects store))

def tableOfKeys (name : String) (store : List Field) (keys : List Value) :
    Job (Session α) BulkTable := do
  keepTable name (← Job.ofResult (BulkTable.singleColumn store keys))

def pushRow (name : String) (row : List Value) : Job (Session α) BulkTable := do
  keepTable name (← Job.ofResult ((← table name).push row))

/-- Reads the rows of a table. -/
def readTable (name : String) (target : TypeName) : Job (Session α) (List (Result α)) := do
  onMapper (Mapper.readAll target (← table name).toRows)

end Session

end RowBinding
