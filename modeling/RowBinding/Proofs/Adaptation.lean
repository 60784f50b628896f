import RowBinding.Proofs.Variants
import RowBinding.Routine.Row
/-!
# Values without rules

Where nothing is registered, a value leaves an object as it is or, if it is a variant, in the representation of the
storage type in the settings.  **What a member sends out comes back to a member of its type as the same value**
(`deliver_written`): a NULL as the typed NULL, a variant by its name or its number, and any other value untouched.
-/
namespace RowBinding

variable {α : Type}

/-! ## Resolution -/

namespace Registry

theorem find?_of_isEmpty {κ ν : Type} [DecidableEq κ] {r : Registry κ ν} (h : r.isEmpty = true) (k : κ) :
    r.find? k = none := by
  rw [find?, List.isEmpty_iff.1 h]
  rfl

end Registry

namespace Rules

/-- The type and the form in which a value of a type is sent out when nothing is registered. -/
def written (storage : StorageType) (t : ValueType) : ValueType × Coercion := rendered t .identity (some storage)

/-- A value is sent out as it is, or rendered in the representation of the storage type. -/
theorem written_cases (storage : StorageType) (t : ValueType) : written storage t = (t, .identity) ∨
    ∃ e s, t = .enumeration e ∧ storage.valueType? = some s ∧ written storage t = (s, .convert s) := by
  unfold written rendered
  cases t with
  | enumeration e =>
    cases hs : storage.valueType? with
    | none => exact .inl (by simp [ValueType.isEnum, hs])
    | some s => exact .inr ⟨e, s, rfl, rfl, by simp [ValueType.isEnum, hs]⟩
  | _ => exact .inl rfl

variable {rules : Rules α}

theorem resolveInbound_of_isEmpty (h : rules.isEmpty = true) (target : TypeName) (member : String)
    (memberType fieldType : ValueType) : rules.resolveInbound target member memberType fieldType =
      ⟨memberType, .between rules.settings.mode fieldType memberType, none, none⟩ := by
  simp only [isEmpty, Bool.and_eq_true] at h
  simp only [resolveInbound, valueHandler?, Registry.find?_of_isEmpty h.1.1.1, Option.map_none, Option.getD_none]

theorem objectHook?_of_isEmpty (h : rules.isEmpty = true) (target : TypeName) : rules.objectHook? target = none := by
  simp only [isEmpty, Bool.and_eq_true] at h
  exact Registry.find?_of_isEmpty h.1.1.2 target

/-- In plain mode, or without a store field, a member's type decides alone what is sent out. -/
theorem resolveOutbound_of_isEmpty (h : rules.isEmpty = true) (members : List OutboundMember) (t : ValueType)
    {fieldType? : Option ValueType} (hmode : rules.settings.mode = .plain ∨ fieldType? = none) :
    (rules.resolveOutbound members t fieldType?).type = (written rules.settings.enumStorage t).1 ∧
      (rules.resolveOutbound members t fieldType?).coercion = (written rules.settings.enumStorage t).2 ∧
      (rules.resolveOutbound members t fieldType?).handler = none := by
  simp only [isEmpty, Bool.and_eq_true] at h
  have hhandler : rules.firstHandler? members = none := by
    simp [firstHandler?, valueHandler?, Registry.find?_of_isEmpty h.1.1.1]
  have hmember : (members.findSome? fun m => rules.memberStorage? m.owner m.name) = none := by
    simp [memberStorage?, Registry.find?_of_isEmpty h.1.2]
  have hfield : rules.towardField t fieldType? = (t, .identity) := by
    unfold towardField
    rcases hmode with hm | rfl
    · rw [hm]
    · cases rules.settings.mode <;> rfl
  have hstorage : rendered t .identity (rules.storageOf members t) = written rules.settings.enumStorage t := by
    unfold written storageOf
    rw [hmember, typeStorage?, Registry.find?_of_isEmpty h.2]
    cases t <;> rfl
  unfold resolveOutbound
  simp only [hhandler, Option.map_none, Option.getD_none, hfield, hstorage, and_self]

end Rules

/-! ## There and back -/

namespace Coercion

theorem between_self (mode : ConversionMode) (t : ValueType) : between mode t t = .identity := by
  unfold between
  rw [if_pos rfl]

theorem between_enumeration (mode : ConversionMode) {t : ValueType} {e : EnumDef} (h : t ≠ .enumeration e) :
    between mode t (.enumeration e) = .parseEnum e := by
  unfold between
  rw [if_neg h]

end Coercion

namespace NativeType

/-- The enumeration of the type, if it has one, has legible variants. -/
def Legible (t : NativeType) : Prop := ∀ e, t.valueType = .enumeration e → e.Legible

theorem contains_of_stored {t : NativeType} {e : EnumDef} {n : Discriminant}
    (h : t.Stored (.datum (.enumeration e n))) : e.contains n.toInt = true := by
  induction t with
  | base b =>
    obtain ⟨x, hx⟩ := h
    cases b with
    | enumeration path f =>
      have hx' : Value.datum (.enumeration f x.1) = .datum (.enumeration e n) := hx
      obtain ⟨rfl, rfl⟩ : f = e ∧ x.1 = n := by simpa using hx'
      exact x.2
    | _ => cases hx
  | option t ih =>
    obtain ⟨x, hx⟩ := h
    match x with
    | none => cases hx
    | some y => exact ih ⟨y, hx⟩
  | box t ih => exact ih h

end NativeType

namespace Operation

theorem deliver_null {op : Operation} {v w : Value} (hv : v.isNull = true) (hop : op.onNull = some w) :
    op.deliver v = .ok w := by
  rw [deliver, hv, hop]

theorem deliver_datum {op : Operation} {d : Datum} (hop : op.handler = none) :
    op.deliver (.datum d) = op.coercion.apply (.datum d) := by
  show op.adapt (.datum d) = _
  unfold adapt
  rw [hop]
  exact bind_pure _

/-- **What a member sent out comes back to it as it was.** -/
theorem deliver_written {op : Operation} {t : NativeType} (ht : t.Legible) {v w : Value} (hv : t.Stored v)
    {storage : StorageType} (hs : storage.keepsVariants = true)
    (hw : (Rules.written storage t.valueType).2.apply v = .ok w) {mode : ConversionMode}
    (hcoercion : op.coercion = .between mode (Rules.written storage t.valueType).1 t.valueType)
    (hhandler : op.handler = none) (hnull : op.onNull = Plan.nullReplacement t.nullable false t.valueType) :
    op.deliver w = .ok v := by
  have hempty : t.nullable = true → op.onNull = some t.valueType.empty := by
    intro hn
    rw [hnull, Plan.nullReplacement, hn]
    rfl
  rcases Rules.written_cases storage t.valueType with hwritten | ⟨e, s, he, hstorage, hwritten⟩
  · rw [hwritten] at hw hcoercion
    obtain rfl : v = w := Except.ok.inj hw
    rcases hv.cases with ⟨d, rfl, -⟩ | ⟨rfl, hn⟩
    · rw [deliver_datum hhandler, hcoercion, Coercion.between_self]
      rfl
    · exact deliver_null rfl (hempty hn)
  · rw [hwritten] at hw hcoercion
    rcases hv.cases with ⟨d, rfl, hd⟩ | ⟨rfl, hn⟩
    · obtain ⟨n, rfl⟩ : ∃ n, d = .enumeration e n := by
        cases d with
        | enumeration f n =>
          obtain rfl : f = e := by simpa [he, Datum.type] using hd
          exact ⟨n, rfl⟩
        | _ => simp [he, Datum.type] at hd
      have hsent : ((Datum.enumeration e n).convert s).map Value.datum = .ok w := hw
      obtain ⟨d, hconvert, rfl⟩ := Result.map_eq_ok_iff.1 hsent
      obtain ⟨-, hne, hback⟩ :=
        Datum.convert_variant_back (ht e he) (NativeType.contains_of_stored hv) hs hstorage hconvert
      rw [deliver_datum hhandler, hcoercion, he, Coercion.between_enumeration mode hne]
      show (Datum.convert d (.enumeration e)).map Value.datum = _
      rw [hback]
      rfl
    · obtain rfl : s.empty = w := Except.ok.inj hw
      exact deliver_null rfl (hempty hn)

end Operation

end RowBinding
