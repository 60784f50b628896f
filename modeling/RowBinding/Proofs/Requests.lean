import RowBinding.Bulk
import RowBinding.Proofs.Jobs
import RowBinding.Proofs.AlikeResults
/-!
# Requests to a mapper

What can be asked of a mapper, and two ways to answer: the mapper itself, which keeps routines between requests, and the
rules alone, which compile a routine for each request and forget it.  **The rules alone say what the answer is**; the
mapper is to give one that is alike.

A request is answered as a whole.  A reading of rows that are wanted one by one, other requests being made meanwhile, is
not one request: it is asked for each of its rows, and holds a routine until the shape changes (`Event`).
-/
namespace RowBinding

variable {α β : Type}

/-- A call of a mapper.  All the rows of `readAll` are read before the next request is made. -/
inductive Request (α : Type) where
  | read (target : TypeName) (row : Row)
  | readAll (target : TypeName) (rows : List Row)
  | bind (command : Command) (target : TypeName) (object : α)
  | bindToFields (command : Command) (target : TypeName) (object : α) (fields : List Field)
  | compileRow (target : TypeName) (fields : List Field)
  | compileParameters (target source : TypeName) (fields : List Field)
  | tableOf (target : TypeName) (objects : List α) (store : List Field)
  | setSettings (s : Settings)
  | addValueHandler (owner : TypeName) (member : String) (handler : ValueHandler) (force : Bool)
  | removeValueHandler (owner : TypeName) (member : String)
  | addObjectHook (owner : TypeName) (hook : ObjectHook α) (force : Bool)
  | addMemberStorage (owner : TypeName) (member : String) (storage : StorageType) (force : Bool)
  | addTypeStorage (t : ValueType) (storage : StorageType) (force : Bool)
  | resetCache

/-- What a successful call returns. -/
inductive Answer (α : Type) where
  | done
  | removed (found : Bool)
  | object (a : α)
  | objects (results : List (Result α))
  | command (c : Command)
  | rowRoutine (r : RowRoutine α)
  | parameterRoutine (r : ParameterRoutine α)
  | table (t : BulkTable)

/-- The answers are the same but for the case of labels: routines are alike, and so are the failures of single rows. -/
inductive Answer.Alike : Answer α → Answer α → Prop
  | refl (a : Answer α) : Alike a a
  | objects {rs ss : List (Result α)} (h : List.Forall₂ (Result.Alike Eq) rs ss) : Alike (.objects rs) (.objects ss)
  | rowRoutine {r s : RowRoutine α} (h : r.Alike s) : Alike (.rowRoutine r) (.rowRoutine s)
  | parameterRoutine {r s : ParameterRoutine α} (h : r.Alike s) : Alike (.parameterRoutine r) (.parameterRoutine s)

/-! ## The mapper -/

namespace Mapper

/-- Answers a request. -/
def serve : Request α → Job (Mapper α) (Answer α)
  | .read target row => do return .object (← read target row)
  | .readAll target rows => do return .objects (← readAll target rows)
  | .bind command target object => do return .command (← bind command target object)
  | .bindToFields command target object fields => do return .command (← bindToFields command target object fields)
  | .compileRow target fields => do return .rowRoutine (← compileRow target fields).routine
  | .compileParameters target source fields => do
    return .parameterRoutine (← compileParameters target source fields).routine
  | .tableOf target objects store => do return .table (← BulkTable.ofEntities target objects store)
  | .setSettings s => do setSettings s; return .done
  | .addValueHandler owner member handler force => do addValueHandler owner member handler force; return .done
  | .removeValueHandler owner member => do return .removed (← removeValueHandler owner member)
  | .addObjectHook owner hook force => do addObjectHook owner hook force; return .done
  | .addMemberStorage owner member storage force => do addMemberStorage owner member storage force; return .done
  | .addTypeStorage t storage force => do addTypeStorage t storage force; return .done
  | .resetCache => do resetCache; return .done

/-- Answers requests one after the other, going on after one that fails. -/
def serveAll : List (Request α) → Journaled (Mapper α) → List (Result (Answer α)) × Journaled (Mapper α)
  | [], j => ([], j)
  | request :: requests, j =>
    let (answer, next) := (serve request).perform j
    let (answers, last) := serveAll requests next
    (answer :: answers, last)

end Mapper

/-! ## The rules alone -/

/-- A failure as a result of its own; an abort stays one. -/
def Result.attempted : Result β → Result (Result β)
  | .ok b => .ok (.ok b)
  | .error e => if e.isAbort then .error e else .ok (.error e)

namespace Rules

/-- Compiles a routine for a row and reads the row. -/
def read (schema : Schema α) (rules : Rules α) (target : TypeName) (row : Row) : Result α := do
  (← RowRoutine.compile schema rules (.rowToObject target row.fields)).call row

/-- Reads each of some rows on its own. -/
def readAll (schema : Schema α) (rules : Rules α) (target : TypeName) (rows : List Row) : Result (List (Result α)) :=
  rows.mapM fun row => (rules.read schema target row).attempted

/-- Compiles a routine for the parameters of an object and appends them. -/
def bindToFields (schema : Schema α) (rules : Rules α) (command : Command) (target : TypeName) (object : α)
    (fields : List Field) : Result Command := do
  let r ← ParameterRoutine.compile schema rules (.objectToParameters target target fields)
  return command.append (← r.call object)

/-- Compiles a routine for the parameters of some objects and stages them. -/
def tableOf (schema : Schema α) (rules : Rules α) (target : TypeName) (objects : List α) (store : List Field) :
    Result BulkTable := do
  let r ← ParameterRoutine.compile schema rules (.objectToParameters target target store)
  return ⟨BulkTable.columns store r.plan, ← objects.mapM (BulkTable.rowOf r)⟩

/-- The outcome of a change: a refused one leaves the rules. -/
def changed (rules : Rules α) : Result (Answer α × Rules α) → Result (Answer α) × Rules α
  | .ok (answer, next) => (.ok answer, next)
  | .error e => (.error e, rules)

/-- Answers a request by compiling afresh. -/
def serve (schema : Schema α) (rules : Rules α) : Request α → Result (Answer α) × Rules α
  | .read target row => ((rules.read schema target row).map .object, rules)
  | .readAll target rows => ((rules.readAll schema target rows).map .objects, rules)
  | .bind command target object => ((rules.bindToFields schema command target object []).map .command, rules)
  | .bindToFields command target object fields =>
    ((rules.bindToFields schema command target object fields).map .command, rules)
  | .compileRow target fields =>
    ((RowRoutine.compile schema rules (.rowToObject target fields)).map .rowRoutine, rules)
  | .compileParameters target source fields =>
    ((ParameterRoutine.compile schema rules (.objectToParameters target source fields)).map .parameterRoutine, rules)
  | .tableOf target objects store => ((rules.tableOf schema target objects store).map .table, rules)
  | .setSettings s => (.ok .done, { rules with settings := s })
  | .addValueHandler owner member handler force =>
    rules.changed ((rules.addValueHandler owner member handler force).map fun next => (.done, next))
  | .removeValueHandler owner member =>
    (.ok (.removed (rules.removeValueHandler owner member).1), (rules.removeValueHandler owner member).2)
  | .addObjectHook owner hook force =>
    rules.changed ((rules.addObjectHook owner hook force).map fun next => (.done, next))
  | .addMemberStorage owner member storage force =>
    rules.changed ((rules.addMemberStorage owner member storage force).map fun next => (.done, next))
  | .addTypeStorage t storage force =>
    rules.changed ((rules.addTypeStorage t storage force).map fun next => (.done, next))
  | .resetCache => (.ok .done, rules)

/-- Answers requests one after the other. -/
def serveAll (schema : Schema α) : List (Request α) → Rules α → List (Result (Answer α)) × Rules α
  | [], rules => ([], rules)
  | request :: requests, rules =>
    let (answer, next) := rules.serve schema request
    let (answers, last) := serveAll schema requests next
    (answer :: answers, last)

end Rules

/-! ## Rows between requests -/

/-- A reading that is asked for its rows one by one; readings into one type are told apart by numbers. -/
structure LiveReading where
  target : TypeName
  number : Nat
  deriving DecidableEq

/-- What is wanted next: the answer to a request, or the object of the next row of a reading. -/
inductive Event (α : Type) where
  | request (request : Request α)
  | row (reading : LiveReading) (row : Row)

namespace Mapper

/-- Answers an event, the readings holding these routines.  A reading that an abort goes through has ended. -/
def respond (held : LiveReading → Option (RowRoutine α)) (event : Event α) (j : Journaled (Mapper α)) :
    Result (Answer α) × (LiveReading → Option (RowRoutine α)) × Journaled (Mapper α) :=
  match event with
  | .request request => (((serve request).perform j).1, held, ((serve request).perform j).2)
  | .row reading row =>
    match (readNext reading.target (held reading) row).perform j with
    | (.ok (result, next), i) => (.ok (.objects [result]), Function.update held reading next, i)
    | (.error e, i) => (.error e, Function.update held reading none, i)

/-- Answers events one after the other. -/
def respondAll : (held : LiveReading → Option (RowRoutine α)) → List (Event α) → Journaled (Mapper α) →
    List (Result (Answer α)) × Journaled (Mapper α)
  | _, [], j => ([], j)
  | held, event :: events, j =>
    let (answer, next, i) := respond held event j
    let (answers, last) := respondAll next events i
    (answer :: answers, last)

end Mapper

/-- The shape that a reading has compiled for, and the rules that were in force then. -/
structure Rules.Remembered (α : Type) where
  rules : Rules α
  shape : Fingerprint

namespace Rules

/-- The rules for the next row of a reading: those that it remembers, as long as the shape is the one that it remembers,
and else those in force. -/
def forNext (rules : Rules α) (remembered : Option (Remembered α)) (p : Fingerprint) : Rules α :=
  match remembered with
  | some r => if r.shape.same p then r.rules else rules
  | none => rules

/-- What a reading remembers after a row; a shape that does not compile is not remembered. -/
def afterRow (schema : Schema α) (rules : Rules α) (remembered : Option (Remembered α)) (p : Fingerprint) :
    Option (Remembered α) :=
  match RowRoutine.compile schema (rules.forNext remembered p) p with
  | .ok _ => some ⟨rules.forNext remembered p, p⟩
  | .error _ => remembered

/-- Answers an event, the readings remembering this: a row is read by compiling afresh, under the rules for it. -/
def respond (schema : Schema α) (rules : Rules α) (remembered : LiveReading → Option (Remembered α)) :
    Event α → Result (Answer α) × (LiveReading → Option (Remembered α)) × Rules α
  | .request request => ((rules.serve schema request).1, remembered, (rules.serve schema request).2)
  | .row reading row =>
    let p := .rowToObject reading.target row.fields
    match ((rules.forNext (remembered reading) p).read schema reading.target row).attempted with
    | .ok result =>
      let next := rules.afterRow schema (remembered reading) p
      (.ok (.objects [result]), Function.update remembered reading next, rules)
    | .error e => (.error e, Function.update remembered reading none, rules)

/-- Answers events one after the other. -/
def respondAll (schema : Schema α) : (remembered : LiveReading → Option (Remembered α)) → List (Event α) → Rules α →
    List (Result (Answer α)) × Rules α
  | _, [], rules => ([], rules)
  | remembered, event :: events, rules =>
    let (answer, next, changed) := rules.respond schema remembered event
    let (answers, last) := respondAll schema next events changed
    (answer :: answers, last)

end Rules

end RowBinding
