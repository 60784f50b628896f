import RowBinding.Native.Conversion
import RowBinding.Proofs.RelatedLists
/-!
# Stored values

The values that members hold are the stored forms of native values.  **A native type takes back each of its own stored
values unchanged** (`store_of_stored`), and the only NULL among them is the typed one, where the type has room for it
(`Stored.of_isNull`).
-/
namespace RowBinding

namespace BaseType

theorem type_toDatum (b : BaseType) (x : b.Carrier) : (b.toDatum x).type = b.valueType := by
  cases b <;> rfl

theorem ofDatum?_toDatum (b : BaseType) (x : b.Carrier) : b.ofDatum? (b.toDatum x) = some x := by
  cases b with
  | integer k => simp [ofDatum?, toDatum]
  | float w => simp [ofDatum?, toDatum]
  | enumeration path e =>
    obtain ⟨n, hn⟩ := x
    simp [ofDatum?, toDatum, hn]
  | _ => rfl

theorem ofDatum_toDatum (b : BaseType) (x : b.Carrier) : b.ofDatum (b.toDatum x) = .ok x := by
  have hconvert : (b.toDatum x).convert b.valueType = .ok (b.toDatum x) := by
    rw [Datum.convert, if_pos (b.type_toDatum x)]
  have hbind : b.ofDatum (b.toDatum x) = (do
      let stored ← (b.toDatum x).convert b.valueType
      ((b.ofDatum? stored).map (pure : b.Carrier → Result b.Carrier)).getD (throw (b.refusal stored))) := by
    unfold ofDatum
    refine bind_congr fun stored => ?_
    cases b.ofDatum? stored <;> rfl
  rw [hbind, hconvert]
  show ((b.ofDatum? (b.toDatum x)).map (pure : b.Carrier → Result b.Carrier)).getD _ = .ok x
  rw [b.ofDatum?_toDatum x]
  rfl

theorem own?_eq_some {b : BaseType} {d : Datum} {x : b.Carrier} (h : b.own? d = some x) : b.ofDatum? d = some x := by
  unfold own? at h
  split at h
  · cases h
  · exact h

theorem ofValue_toDatum (b : BaseType) (x : b.Carrier) : b.ofValue (.datum (b.toDatum x)) = .ok x := by
  rw [ofValue]
  cases hown : b.own? (b.toDatum x) with
  | none => exact b.ofDatum_toDatum x
  | some y =>
    have hsame := own?_eq_some hown
    rw [b.ofDatum?_toDatum x] at hsame
    rw [Option.some.inj hsame]

end BaseType

namespace NativeType

/-- The value is the stored form of a native value. -/
def Stored (t : NativeType) (v : Value) : Prop := ∃ x : t.Carrier, t.toValue x = v

variable {t : NativeType} {v : Value}

/-- A stored value is a datum of the type's value type or the NULL of that type. -/
theorem Stored.cases (h : t.Stored v) : (∃ d : Datum, v = .datum d ∧ d.type = t.valueType) ∨
    v = t.valueType.empty ∧ t.nullable = true := by
  induction t with
  | base b =>
    obtain ⟨x, rfl⟩ := h
    exact .inl ⟨b.toDatum x, rfl, b.type_toDatum x⟩
  | option t ih =>
    obtain ⟨x, rfl⟩ := h
    match x with
    | none => exact .inr ⟨rfl, rfl⟩
    | some y =>
      rcases ih ⟨y, rfl⟩ with ⟨d, hd, ht⟩ | ⟨hnull, -⟩
      · exact .inl ⟨d, hd, ht⟩
      · exact .inr ⟨hnull, rfl⟩
  | box t ih => exact ih h

theorem Stored.of_isNull (h : t.Stored v) (hnull : v.isNull = true) : v = t.valueType.empty ∧ t.nullable = true := by
  rcases h.cases with ⟨d, rfl, -⟩ | h
  · cases hnull
  · exact h

theorem Stored.type? (h : t.Stored v) : v.type? = some t.valueType := by
  rcases h.cases with ⟨d, rfl, ht⟩ | ⟨rfl, -⟩
  · exact congrArg some ht
  · rfl

theorem ofValue_of_stored (h : t.Stored v) : ∃ x, t.ofValue v = .ok x ∧ t.toValue x = v := by
  induction t with
  | base b =>
    obtain ⟨x, rfl⟩ := h
    exact ⟨x, b.ofValue_toDatum x, rfl⟩
  | option t ih =>
    by_cases hnull : v.isNull = true
    · refine ⟨(none : Option t.Carrier), if_pos hnull, ?_⟩
      exact (h.of_isNull hnull).1.symm
    · obtain ⟨x, rfl⟩ := h
      match x with
      | none => exact absurd rfl hnull
      | some y =>
        obtain ⟨z, hz, hzv⟩ := ih ⟨y, rfl⟩
        refine ⟨(some z : Option t.Carrier), ?_, hzv⟩
        exact (if_neg hnull).trans (congrArg (Except.map some) hz)
  | box t ih => exact ih h

/-- **A native type takes back its own stored values unchanged.** -/
theorem store_of_stored (h : t.Stored v) : t.store v = .ok v := by
  obtain ⟨x, hx, hxv⟩ := ofValue_of_stored h
  rw [store, hx]
  exact congrArg Except.ok hxv

theorem stored_of_store {w : Value} (h : t.store w = .ok v) : t.Stored v := by
  rw [store] at h
  cases hx : t.ofValue w with
  | error e =>
    rw [hx] at h
    cases h
  | ok x =>
    rw [hx] at h
    exact ⟨x, Except.ok.inj h⟩

theorem store_eq_iff : t.store v = .ok v ↔ t.Stored v := ⟨stored_of_store, store_of_stored⟩

instance (t : NativeType) (v : Value) : Decidable (t.Stored v) := decidable_of_iff _ store_eq_iff

end NativeType

end RowBinding
