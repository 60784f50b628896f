import RowBinding.Mapper.Basic
import RowBinding.Sample.Structs
/-!
# Checks

A sample run uses a mapper and checks what it gets.  **The first check that fails ends the run**,
and what the run did to the mapper until then stays done.
-/
namespace RowBinding

namespace Job

variable {σ α : Type}

/-- Ends the run unless a condition holds. -/
def require (condition : Bool) : Job σ Unit := if condition then pure () else throw .abort

/-- What must be there. -/
def given (a? : Option α) : Job σ α :=
  match a? with
  | some a => pure a
  | none => throw .abort

/-- A computation that must succeed. -/
def succeeds (job : Job σ α) : Job σ α := tryCatch job fun _ => throw .abort

/-- A computation that must fail, and how. -/
def fails (expected : Failure → Bool) (job : Job σ α) : Job σ Unit := do
  let failure? ← tryCatch (do let _ ← job; return none) fun e => return some e
  require (failure?.any expected)

end Job

namespace Failure

def isShapeMismatch : Failure → Bool
  | shapeMismatch .. => true
  | _ => false

def isBinding : Failure → Bool
  | binding .. => true
  | _ => false

/-- Whether a shape was refused because nothing in it can be bound. -/
def isNothingBound : Failure → Bool
  | binding _ _ (.noConstructor ..) | binding _ _ (.noMember _) => true
  | _ => false

def isConversion : Failure → Bool
  | conversion .. => true
  | _ => false

/-- Whether a value failed on its way to a field. -/
def isConversionOf (field : String) : Failure → Bool
  | conversion _ f _ => f == field
  | _ => false

def isRegistrationConflict : Failure → Bool
  | registrationConflict _ => true
  | _ => false

end Failure

namespace Sample

/-- A run on a mapper. -/
abbrev Run := Job (Mapper Object)

/-! ## Values -/

def number (k : IntKind) (n : Int) : Value := .integer (Bounded.wrapped k n)

def long (n : Int) : Value := number .int64 n

def text (s : String) : Value := .varchar s

/-- The quotient of two natural numbers. -/
def ratio (w : FloatWidth) (num den : Nat) : Value := .datum (.float w (.ofRatio w false num den))

/-- The number `mantissa / 10 ^ scale`. -/
def amount (mantissa scale : Nat) : Value :=
  ((Decimal.ofParts? false mantissa scale).map fun x => .datum (.decimal x)).getD (.null .decimal)

def date (year : Int) (month day : Nat) : Value :=
  ((Date.ofParts? year month day).map fun d => .datum (.date d)).getD (.null .date)

/-- A point in time without fraction. -/
def timestamp (year : Int) (month day hour minute second : Nat) : Value :=
  let found : Option Value := do
    let d ← Date.ofParts? year month day
    let t ← Time.ofParts? hour minute second 0
    return .datum (.timestamp ⟨d, t⟩)
  found.getD (.null .timestamp)

def status (n : Int) : Value := .datum (.enumeration orderStatus (discriminant n))

/-! ## Fields and objects -/

def column (name : String) (t : ValueType) : Field := .column name t

def longColumn (name : String) : Field := column name (.integer .int64)

def textColumn (name : String) : Field := column name .varchar

/-- Whether two records have the same fields with values that mean the same. -/
def sameRecord (r s : Record) : Bool :=
  r.fields.length == s.fields.length &&
    (r.fields.zip s.fields).all fun (f, g) => f.1 == g.1 && f.2.agrees g.2

def Object.asRecord : Object → Run Record
  | .record r => pure r
  | _ => throw .abort

def Object.asScalar : Object → Run Value
  | .scalar v => pure v
  | _ => throw .abort

/-- The record of a row, which must be readable. -/
def readRecord (target : TypeName) (fields : List Field) (values : List Value) : Run Record := do
  (← Job.succeeds (Mapper.read target ⟨fields, values⟩)).asRecord

/-- The scalar of a row, which must be readable. -/
def readScalar (t : NativeType) (fields : List Field) (values : List Value) : Run Value := do
  (← Job.succeeds (Mapper.read t.typeName ⟨fields, values⟩)).asScalar

/-- The record that a routine makes of a row. -/
def callRecord (r : RowRoutine Object) (values : List Value) : Run Record := do
  (← Job.succeeds (Job.ofResult (r.call ⟨r.fingerprint.fields, values⟩))).asRecord

/-- The value of a field must mean what is expected. -/
def requireField (r : Record) (name : String) (expected : Value) : Run Unit :=
  Job.require ((r.get name).agrees expected)

/-- The parameters of a record, which must be readable. -/
def bound (target : TypeName) (r : Record) (store : List Field) : Run (List Parameter) :=
  Job.succeeds (Mapper.parametersFor target (.record r) store)

/-- What is expected of the parameter at a position. -/
def requireParameter (ps : List Parameter) (i : Nat) (check : Parameter → Bool) : Run Unit := do
  Job.require (check (← Job.given ps[i]?))

/-- Compares the value and the storage type of a parameter. -/
def isStoredAs (value : Value) (storage : StorageType) (p : Parameter) : Bool :=
  p.value.agrees value && p.storage == some storage

/-- How many routines the mapper keeps. -/
def entries : Run Nat := do return (← Job.get).stats.entries

end Sample

end RowBinding
