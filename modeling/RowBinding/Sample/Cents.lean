import RowBinding.Rules.Basic
import RowBinding.Sample.Structs
/-!
# Money as cents

An amount of money is a decimal in the object and an integer number of cents in the store.  What is
smaller than a cent is cut off on the way into the store.
-/
namespace RowBinding.Sample

/-- The digits after the point of an amount of cents. -/
def centScale : Nat := 2

/-- An amount of cents as a decimal of scale two. -/
def amountOfCents (cents : Bounded .int64) : Result Value :=
  match Decimal.ofParts? (cents.toInt < 0) cents.toInt.natAbs centScale with
  | some x => .ok (.datum (.decimal x))
  | none => .error .amountOutOfRange

/-- A decimal amount as cents.  An amount of which no decimal has the hundredfold ends the
computation. -/
def centsOfAmount (amount : Decimal) : Result Value :=
  match amount.hundredfold? with
  | none => .error .abort
  | some x =>
    match Bounded.ofInt? .int64 x.truncated with
    | some cents => .ok (.integer cents)
    | none => .error .amountOutOfRange

/-- The handler of amounts that are stored as cents. -/
def cents : ValueHandler where
  storage := .integer .int64
  get
    | .datum (.integer .int64 n) => amountOfCents n
    | .null (.integer .int64) => .ok (.null .decimal)
    | v => .error (.foreignValue "cents" v)
  set
    | .datum (.decimal x) => centsOfAmount x
    | .null .decimal => .ok (.null (.integer .int64))
    | v => .error (.foreignValue "a decimal amount" v)

/-- Removes the blanks around the name of a customer. -/
def trimName (r : Record) : Record :=
  match r.get "name" with
  | .datum (.varchar s) => r.set "name" (.varchar (String.ofList (Text.trimmed s)))
  | _ => r

/-- The hook that trims the names of customers. -/
def trimNames : ObjectHook Object
  | .record r => .ok (.record (trimName r))
  | o => .ok o

end RowBinding.Sample
