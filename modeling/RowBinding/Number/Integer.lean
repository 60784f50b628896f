/-!
# Integers of a fixed width

The eight integer kinds of a store: signed and unsigned, of 8, 16, 32 and 64 bits.  A number of
such a kind is an integer together with the proof that it lies in the kind's range, so that an
operation that could leave the range has to say what happens: `Bounded.ofInt?` refuses,
`Bounded.wrapped` reduces modulo the width.
-/
namespace RowBinding

-- Powers are those of the numbers themselves, also where a wider theory of powers is at hand.
attribute [scoped instance (high)] instPowNat

/-- The kinds of integers, by width and sign. -/
inductive IntKind where
  | int8 | int16 | int32 | int64
  | uint8 | uint16 | uint32 | uint64
  deriving DecidableEq, Repr

namespace IntKind

def bits : IntKind → Nat
  | int8 | uint8 => 8
  | int16 | uint16 => 16
  | int32 | uint32 => 32
  | int64 | uint64 => 64

/-- The smallest number of the kind. -/
def min : IntKind → Int
  | int8 => -128
  | int16 => -32768
  | int32 => -2147483648
  | int64 => -9223372036854775808
  | uint8 | uint16 | uint32 | uint64 => 0

/-- The largest number of the kind. -/
def max : IntKind → Int
  | int8 => 127
  | int16 => 32767
  | int32 => 2147483647
  | int64 => 9223372036854775807
  | uint8 => 255
  | uint16 => 65535
  | uint32 => 4294967295
  | uint64 => 18446744073709551615

/-- The kind's range. -/
def Holds (k : IntKind) (n : Int) : Prop := k.min ≤ n ∧ n ≤ k.max

instance (k : IntKind) (n : Int) : Decidable (k.Holds n) := inferInstanceAs (Decidable (_ ∧ _))

theorem min_le_zero (k : IntKind) : k.min ≤ 0 := by cases k <;> decide

theorem zero_le_max (k : IntKind) : 0 ≤ k.max := by cases k <;> decide

/-- A kind of `bits` bits holds exactly `2 ^ bits` numbers. -/
theorem max_eq (k : IntKind) : k.max = k.min + 2 ^ k.bits - 1 := by cases k <;> decide

end IntKind

/-- A number of one kind. -/
structure Bounded (k : IntKind) where
  toInt : Int
  holds : k.Holds toInt
  deriving DecidableEq

namespace Bounded

variable {k : IntKind}

/-- The number, if it lies in the kind's range. -/
def ofInt? (k : IntKind) (n : Int) : Option (Bounded k) :=
  if h : k.Holds n then some ⟨n, h⟩ else none

def zero (k : IntKind) : Bounded k := ⟨0, k.min_le_zero, k.zero_le_max⟩

/-- The representative of `n` modulo the kind's width that lies in its range. -/
def residue (k : IntKind) (n : Int) : Int :=
  let r := n % 2 ^ k.bits
  if r ≤ k.max then r else r - 2 ^ k.bits

theorem holds_residue (k : IntKind) (n : Int) : k.Holds (residue k n) := by
  cases k <;> simp only [IntKind.Holds, residue, IntKind.bits, IntKind.min, IntKind.max] <;>
    omega

/-- The number reduced modulo the kind's width. -/
def wrapped (k : IntKind) (n : Int) : Bounded k := ⟨residue k n, holds_residue k n⟩

/-- A number that the kind holds is its own residue. -/
theorem residue_eq_self {n : Int} (h : k.Holds n) : residue k n = n := by
  cases k <;> simp only [IntKind.Holds, residue, IntKind.bits, IntKind.min, IntKind.max] at * <;>
    omega

theorem ofInt?_toInt (n : Bounded k) : ofInt? k n.toInt = some n := by
  simp [ofInt?, n.holds]

end Bounded

end RowBinding
