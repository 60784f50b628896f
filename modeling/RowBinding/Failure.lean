import RowBinding.Value.Text
import RowBinding.Number.DecimalText
import RowBinding.Text.Joined
import RowBinding.StorageType
/-!
# Failures

A failure is a cause, with the data that a message needs, and not a message; the wording stands in
one place, `Failure.chain`.  **The mapper's own failures have four kinds**: a shape that does not
fit, no way to bind, a value that does not convert, and contradictory registrations.  Everything
else is passed on as it is.

One failure is not a message at all.  `Failure.abort` means that the computation cannot go on: no
step may catch it, wrap it or report it, so it keeps its place through every context.
-/
namespace RowBinding

/-- A number as conversions see it. -/
inductive Number where
  | integer (n : Int)
  | float (x : Binary .double)
  | decimal (x : Decimal)
  deriving DecidableEq

def Number.text : Number → String
  | integer n => Numeral.text n
  | float x => x.text
  | decimal x => x.text

/-- Why a text was not read. -/
inductive TextFault where
  | numeral (fault : NumeralFault)
  | float (fault : FloatFault)
  | decimal (fault : DecimalFault)
  | calendar (fault : CalendarFault)
  | uuid (fault : UuidFault)
  deriving DecidableEq

def TextFault.chain : TextFault → List String
  | numeral fault => [fault.message]
  | float fault => [fault.message]
  | decimal fault => [fault.message]
  | calendar fault => fault.chain
  | uuid fault => [fault.message]

/-- Why a value was not converted. -/
inductive ValueFault where
  /-- There is no conversion between the two types, or none of this value. -/
  | noConversion (d : Datum) (target : ValueType)
  /-- The text does not write a value of the target. -/
  | unreadable (text : String) (target : ValueType) (fault : Option TextFault)
  | outOfRange (n : Number) (target : ValueType)
  | notIntegral (n : Number) (target : ValueType)
  | noDecimal (n : Int)
  /-- No variant has the discriminant. -/
  | undefinedVariant (n : Int) (e : EnumDef)
  /-- No variant of the target has the name of the variant, or the source has no such variant. -/
  | unmatchedVariant (n : Int) (source target : EnumDef)
  | blobSize (found : Nat)
  deriving DecidableEq

/-- What the decimal with too large a magnitude is told. -/
def decimalRangeMessage (n : Int) : String :=
  if n < 0 then "Number less than minimum value that can be represented."
  else DecimalFault.tooLarge.message

def ValueFault.chain : ValueFault → List String
  | noConversion d target =>
    ["Cannot convert " ++ Text.abbreviated (Value.datum d).outline ++ " to " ++ target.text]
  | unreadable text target fault =>
    ("Cannot convert `" ++ Text.abbreviated text ++ "` to " ++ target.text) ::
      (fault.map TextFault.chain).getD []
  | outOfRange n target => ["Value " ++ n.text ++ " is out of range for " ++ target.text]
  | notIntegral n target =>
    ["Value " ++ n.text ++ " is not an integer and does not fit into " ++ target.text]
  | noDecimal n =>
    ["Value " ++ Numeral.text n ++ " does not fit into a Decimal", decimalRangeMessage n]
  | undefinedVariant n e => ["Value " ++ Numeral.text n ++ " is not a variant of " ++ e.name]
  | unmatchedVariant n source target =>
    ["Value " ++ Numeral.text n ++ " of " ++ source.name ++ " has no match in " ++ target.name]
  | blobSize found =>
    ["A Uuid requires exactly 16 bytes",
      "invalid length: expected 16 bytes, found " ++ Numeral.text found]

/-- Why a shape cannot feed its target. -/
inductive ShapeFault where
  | duplicateLabel (label : String)
  | scalarFields (count : Nat)
  | scalarParameters
  | rowSize (values fields : Nat)
  | tableSize (columns : Nat)
  deriving DecidableEq

def ShapeFault.message : ShapeFault → String
  | duplicateLabel label => "field `" ++ label ++ "` appears more than once"
  | scalarFields count =>
    "a scalar target needs exactly one field, the shape has " ++ Numeral.text count
  | scalarParameters => "a scalar has no members to read parameters from"
  | rowSize values fields =>
    "the row has " ++ Numeral.text values ++ " values, the routine was compiled for " ++
      Numeral.text fields
  | tableSize columns => "the table has " ++ Numeral.text columns ++ " columns"

/-- Why nothing could be bound. -/
inductive BindingFault where
  | noConstructor (count : Nat) (entity : String)
  | noMember (entity : String)
  | noMembers (entity : String)
  | noKey
  deriving DecidableEq

def BindingFault.message : BindingFault → String
  | noConstructor count entity =>
    "no bindings found, none of the " ++ Numeral.text count ++ " constructors of `" ++ entity ++
      "` has all its parameters in the shape, declare a constructor without parameters or select " ++
      "the missing fields"
  | noMember entity => "no bindings found, no field matches a writable member of `" ++ entity ++ "`"
  | noMembers entity => "`" ++ entity ++ "` has no members"
  | noKey => "no primary or identity field found"

/-- A rule that stands in the way of another one. -/
inductive Registration where
  | valueHandler (owner member : String)
  | objectHook (owner : String)
  | memberStorage (existing : StorageType) (owner member : String)
  | typeStorage (existing : StorageType) (type : ValueType)
  deriving DecidableEq

def Registration.message : Registration → String
  | valueHandler owner member => "A value handler for `" ++ owner ++ "::" ++ member ++ "`"
  | objectHook owner => "An object hook for `" ++ owner ++ "`"
  | memberStorage existing owner member =>
    "Storage type " ++ existing.name ++ " for `" ++ owner ++ "::" ++ member ++ "`"
  | typeStorage existing type => "Storage type " ++ existing.name ++ " for type " ++ type.text

/-- What went wrong. -/
inductive Failure where
  | shapeMismatch (target shape : String) (fault : ShapeFault)
  | binding (target shape : String) (fault : BindingFault)
  /-- A value on its way to a field, a parameter or a constructor. -/
  | conversion (target field : String) (reason : Failure)
  | registrationConflict (existing : Registration)
  | value (fault : ValueFault)
  | nullInto (typeName : String)
  | missingArgument (index : Nat)
  | argument (index : Nat) (reason : Failure)
  | foreignValue (expected : String) (found : Value)
  | amountOutOfRange
  | unknownStorageType (text : String)
  | unknownConversionMode (text : String)
  | foreignRoutine
  | emptyPlan (fingerprint : String)
  | noConstructor (fingerprint : String)
  | unknownRoutine
  | unknownTable
  /-- A failure that a handler, a hook or a constructor words itself. -/
  | custom (message : String)
  /-- The computation cannot go on. -/
  | abort
  deriving DecidableEq

/-- What may fail. -/
abbrev Result := Except Failure

namespace Failure

/-- The messages of a failure, from the outermost context to the cause. -/
def chain : Failure → List String
  | shapeMismatch target shape fault =>
    ["Shape " ++ shape ++ " cannot be mapped to `" ++ target ++ "`: " ++ fault.message]
  | binding target shape fault =>
    ["Cannot bind shape " ++ shape ++ " to `" ++ target ++ "`: " ++ fault.message]
  | conversion target field reason =>
    ["Cannot convert field `" ++ field ++ "` of `" ++ target ++ "`: " ++
      Text.joined ": " reason.chain]
  | registrationConflict existing =>
    ["Registration conflict: " ++ existing.message ++
      " is already registered, pass `force` to replace it"]
  | value fault => fault.chain
  | nullInto typeName =>
    ["Cannot convert NULL to " ++ typeName ++ ", use Option<" ++ typeName ++
      "> for nullable values"]
  | missingArgument index => ["Missing constructor argument " ++ Numeral.text index]
  | argument index reason =>
    ("While reading constructor argument " ++ Numeral.text index) :: reason.chain
  | foreignValue expected found => ["Expected " ++ expected ++ ", found " ++ found.outline]
  | amountOutOfRange => ["Amount out of range", "Error while converting to i64"]
  | unknownStorageType text => ["Unknown storage type `" ++ text ++ "`"]
  | unknownConversionMode text =>
    ["Unknown conversion mode `" ++ text ++ "`, expected `default` or `automatic`"]
  | foreignRoutine => ["The cached routine has a different type than requested"]
  | emptyPlan fingerprint => ["Empty plan for " ++ fingerprint]
  | noConstructor fingerprint => ["No constructor was selected for " ++ fingerprint]
  | unknownRoutine => ["no such routine"]
  | unknownTable => ["no such table"]
  | custom message => [message]
  | abort => []

/-- The whole failure on one line. -/
def message (failure : Failure) : String := Text.joined ": " failure.chain

/-- Whether the computation ends with this failure. -/
def isAbort : Failure → Bool
  | abort => true
  | _ => false

/-- Whether this is a failure of the mapper itself. -/
def isMapping : Failure → Bool
  | shapeMismatch .. | binding .. | conversion .. | registrationConflict _ => true
  | _ => false

/-- The failure of a value on its way to `field` of `target`. -/
def inField (target field : String) : Failure → Failure
  | abort => abort
  | reason => conversion target field reason

/-- The failure of a value on its way to a constructor's parameter. -/
def inArgument (index : Nat) : Failure → Failure
  | abort => abort
  | reason => argument index reason

end Failure

end RowBinding
