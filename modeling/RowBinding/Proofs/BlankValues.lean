import RowBinding.Proofs.StoredValues
import RowBinding.Plan.Basic
/-!
# Blank values

A destination that a NULL reaches is left blank: what may be missing is missing, and anything else is zero.  **What is
planned to take the place of a NULL is the stored form of the blank value** (`NativeType.nullReplacement_blank`), so the
type takes it back as that value (`NativeType.ofValue_blank`).
-/
namespace RowBinding

theorem EnumDef.contains_of_mem {e : EnumDef} {v : Variant} (h : v ∈ e.variants) :
    e.contains v.discriminant.toInt = true := by
  rw [contains, nameOf?, Option.isSome_map, List.find?_isSome]
  exact ⟨v, h, beq_self_eq_true _⟩

/-! ## Zeros -/

namespace BaseType

/-- The zero of a base type; that of an enumeration is its first variant. -/
def zero? : (b : BaseType) → Option b.Carrier
  | bool => some false
  | integer k => some (Bounded.zero k)
  | float w => some (Binary.zero false : Binary w)
  | decimal => some Decimal.zero
  | string => some ""
  | boxedBytes => some ([] : List UInt8)
  | byteVector => some ([] : List UInt8)
  | date => some Date.origin
  | time => some Time.midnight
  | timestamp => some (⟨.origin, .midnight⟩ : Timestamp)
  | offsetTimestamp => some (OffsetTimestamp.ofUtc ⟨.origin, .midnight⟩)
  | uuid => some Uuid.nil
  | enumeration _ e =>
    e.variants.head?.pmap (fun v h => ⟨v.discriminant, EnumDef.contains_of_mem (List.mem_of_head? h)⟩) fun _ h => h

theorem zero_valueType {b : BaseType} {z : b.Carrier} (h : b.zero? = some z) :
    b.valueType.zero = .datum (b.toDatum z) := by
  cases b with
  | enumeration path e =>
    obtain ⟨name, variants⟩ := e
    cases variants with
    | nil => cases h
    | cons v _ =>
      obtain rfl := Option.some.inj h
      rfl
  | _ =>
    obtain rfl := Option.some.inj h
    rfl

end BaseType

/-! ## Blanks -/

namespace NativeType

/-- Nothing where the type may be missing, and the zero of its base type otherwise. -/
def blank? : (t : NativeType) → Option t.Carrier
  | base b => b.zero?
  | option t => some (none : Option t.Carrier)
  | box t => t.blank?

variable {t : NativeType} {x : t.Carrier}

/-- Every type has a blank value, if its enumeration has a variant. -/
theorem exists_blank (h : ∀ e, t.valueType = .enumeration e → e.variants ≠ []) : ∃ x, t.blank? = some x := by
  induction t with
  | base b =>
    cases b with
    | enumeration path e =>
      obtain ⟨name, variants⟩ := e
      cases variants with
      | nil => exact absurd rfl (h _ rfl)
      | cons v _ => exact ⟨_, rfl⟩
    | _ => exact ⟨_, rfl⟩
  | option t _ => exact ⟨_, rfl⟩
  | box t ih => exact ih h

/-- **The blank value takes the place of a NULL.** -/
theorem nullReplacement_blank (h : t.blank? = some x) :
    Plan.nullReplacement t.nullable false t.valueType = some (t.toValue x) := by
  induction t with
  | base b => exact congrArg some (BaseType.zero_valueType h)
  | option t _ =>
    obtain rfl := Option.some.inj h
    rfl
  | box t ih => exact ih h

/-- **The type takes its blank value back.** -/
theorem ofValue_blank (h : t.blank? = some x) : t.ofValue (t.toValue x) = .ok x := by
  induction t with
  | base b => exact b.ofValue_toDatum x
  | option t _ =>
    obtain rfl := Option.some.inj h
    exact if_pos rfl
  | box t ih => exact ih h

end NativeType

end RowBinding
