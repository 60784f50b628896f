import RowBinding.Rules.Basic
/-!
# Handlers described by data

The simplest handlers need no code of their own: each of their two ways passes the value on,
changes it in one of a few ways, or fails.
-/
namespace RowBinding

/-- One way of a handler. -/
inductive ValueStep where
  | pass
  /-- Text in capital letters of ASCII; other values pass. -/
  | upper
  | fail (message : String)
  | const (v : Value)
  | cast (t : ValueType)
  | convert (t : ValueType)
  deriving DecidableEq

def ValueStep.apply : ValueStep → Value → Result Value
  | pass, v => .ok v
  | upper, .datum (.varchar s) => .ok (.varchar (String.ofList (s.toList.map Char.toUpper)))
  | upper, v => .ok v
  | fail message, _ => .error (.custom message)
  | const v, _ => .ok v
  | cast t, v => v.cast t
  | convert t, v => v.convert t

/-- The handler with these two ways. -/
def ValueHandler.ofSteps (storage : ValueType) (get set : ValueStep) : ValueHandler :=
  ⟨storage, get.apply, set.apply⟩

end RowBinding
