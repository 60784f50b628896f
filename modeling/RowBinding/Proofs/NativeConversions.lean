import RowBinding.Proofs.ConversionLaws
import RowBinding.Sample.Structs
/-!
# Native values and conversion

A base type takes a datum of its own as it stands and converts any other one, an enumeration looks its discriminants up
in the variants, what may be missing is missing for a NULL, and a pointer leaves all this to what is behind it.  **One
rule says what comes of it**: a native value is taken from just the values that convert to its stored form, from a NULL
only where the type has room for it (`NativeType.ofValue_eq_ok_iff`).  So a type takes its own stored values back, as
long as no more than one part of it may be missing (`NativeType.flat_iff`).
-/
namespace RowBinding

/-- The discriminant of an enumeration is that of one of its variants. -/
def Datum.Defined : Datum → Prop
  | .enumeration e n => ∃ v ∈ e.variants, v.discriminant = n
  | _ => True

/-! ## Base types -/

namespace BaseType

variable {b : BaseType} {d : Datum} {x y : b.Carrier}

theorem ofDatum?_eq_some (h : b.ofDatum? d = some x) : d = b.toDatum x := by
  unfold ofDatum? at h
  split at h
  case h_2 | h_3 =>
    split at h
    · cases h
      rename_i hsame
      obtain rfl := hsame
      rfl
    · cases h
  case h_13 =>
    split at h
    · cases h
      rename_i hvariant
      obtain ⟨rfl, -⟩ := hvariant
      rfl
    · cases h
  case h_14 => cases h
  all_goals
    cases h
    rfl

theorem toDatum_injective (h : b.toDatum x = b.toDatum y) : x = y := by
  have hy := b.ofDatum?_toDatum y
  rw [← h, b.ofDatum?_toDatum x] at hy
  exact Option.some.inj hy

/-- A datum of the right type is a stored native value, unless it is a discriminant without a variant. -/
theorem exists_toDatum_iff (h : d.type = b.valueType) : (∃ x, b.toDatum x = d) ↔ d.Defined := by
  cases b with
  | enumeration path e =>
    cases d with
    | enumeration f n =>
      obtain rfl := ValueType.enumeration.inj h
      constructor
      · rintro ⟨⟨m, hm⟩, heq⟩
        obtain ⟨v, hv, hvm⟩ := EnumDef.contains_iff.1 hm
        have hmn : m = n := (Datum.enumeration.inj heq).2
        exact ⟨v, hv, (Bounded.eq_of_toInt hvm).trans hmn⟩
      · rintro ⟨v, hv, rfl⟩
        exact ⟨⟨v.discriminant, EnumDef.contains_iff.2 ⟨v, hv, rfl⟩⟩, rfl⟩
    | _ => cases h
  | integer k =>
    cases d with
    | integer l n =>
      obtain rfl := ValueType.integer.inj h
      exact iff_of_true ⟨n, rfl⟩ trivial
    | _ => cases h
  | float w =>
    cases d with
    | float v z =>
      obtain rfl := ValueType.float.inj h
      exact iff_of_true ⟨z, rfl⟩ trivial
    | _ => cases h
  | _ =>
    cases d <;> cases h
    exact iff_of_true ⟨_, rfl⟩ trivial

/-- **The way through the conversion** gives the native value whose stored form the conversion gives. -/
theorem ofDatum_eq_ok_iff : b.ofDatum d = .ok x ↔ d.convert b.valueType = .ok (b.toDatum x) := by
  unfold ofDatum
  rw [Result.bind_eq_ok_iff]
  constructor
  · rintro ⟨stored, hstored, h⟩
    split at h
    · rename_i z hz
      obtain rfl : z = x := Except.ok.inj h
      rw [hstored, ofDatum?_eq_some hz]
    · cases h
  · intro h
    refine ⟨b.toDatum x, h, ?_⟩
    rw [b.ofDatum?_toDatum x]
    rfl

/-- **The direct way agrees with it**: what is taken as it stands is what the conversion leaves alone. -/
theorem ofValue_datum_eq_ok_iff : b.ofValue (.datum d) = .ok x ↔ d.convert b.valueType = .ok (b.toDatum x) := by
  rw [ofValue]
  cases hown : b.own? d with
  | none => exact ofDatum_eq_ok_iff
  | some z =>
    obtain rfl := ofDatum?_eq_some (own?_eq_some hown)
    rw [Datum.convert, if_pos (b.type_toDatum z)]
    constructor
    · intro h
      rw [Except.ok.inj h]
    · intro h
      exact congrArg _ (toDatum_injective (Except.ok.inj h))

end BaseType

/-! ## Native types -/

namespace NativeType

/-- No more than one part of the type may be missing. -/
def flat : NativeType → Bool
  | base _ => true
  | option t => !t.nullable
  | box t => t.flat

/-- The type without the room for a missing value. -/
def required : NativeType → NativeType
  | base b => base b
  | option t => t
  | box t => box t.required

/-- The value without the room for a missing one, if it is not missing. -/
def present? : (t : NativeType) → t.Carrier → Option t.required.Carrier
  | base _, x => some x
  | option _, x => x
  | box t, x => t.present? x

variable {t : NativeType} {v : Value} {x : t.Carrier}

theorem flat_of_required (h : t.nullable = false) : t.flat = true := by
  induction t with
  | base b => rfl
  | option t _ => cases h
  | box t ih => exact ih h

/-- The stored form of what cannot be missing is no NULL. -/
theorem isNull_toValue (h : t.nullable = false) (x : t.Carrier) : (t.toValue x).isNull = false := by
  have hstored : t.Stored (t.toValue x) := ⟨x, rfl⟩
  rcases hstored.cases with ⟨d, hd, -⟩ | ⟨-, hnullable⟩
  · rw [hd]
    rfl
  · rw [h] at hnullable
    cases hnullable

theorem isNull_of_convert {w : Value} {s : ValueType} (h : v.convert s = .ok w) : w.isNull = v.isNull :=
  Value.lawful_convert.keepsNull v s w h

theorem convert_of_isNull (h : v.isNull = true) (s : ValueType) : v.convert s = .ok s.empty :=
  Value.lawful_convert.null v s h

/-- What may be missing is missing for a NULL and present for everything else. -/
theorem ofValue_option_eq_ok_iff {t : NativeType} {x : Option t.Carrier} : (option t).ofValue v = .ok x ↔
    if v.isNull then x = none else ∃ y, x = some y ∧ t.ofValue v = .ok y := by
  have htaken : (option t).ofValue v = if v.isNull then .ok (none : Option t.Carrier) else (t.ofValue v).map some := rfl
  rw [htaken]
  by_cases hnull : v.isNull = true
  · rw [if_pos hnull, if_pos hnull]
    exact ⟨fun h => (Except.ok.inj h).symm, fun h => congrArg _ h.symm⟩
  · rw [if_neg hnull, if_neg hnull]
    refine Result.map_eq_ok_iff.trans (exists_congr fun y => ?_)
    rw [and_comm, eq_comm]

/-- **A native value is taken from just the values that convert to its stored form**, and from a NULL only where it may
be missing. -/
theorem ofValue_eq_ok_iff (h : t.flat = true) :
    t.ofValue v = .ok x ↔ v.convert t.valueType = .ok (t.toValue x) ∧ (v.isNull = true → t.nullable = true) := by
  induction t generalizing v with
  | base b =>
    cases v with
    | datum d =>
      have hconverted : (Value.datum d).convert b.valueType = .ok (.datum (b.toDatum x)) ↔
          d.convert b.valueType = .ok (b.toDatum x) := by
        rw [Value.convert_datum_eq_ok]
        constructor
        · rintro ⟨r, hr, heq⟩
          rwa [Value.datum.inj heq]
        · exact fun h => ⟨_, h, rfl⟩
      have htaken : b.ofValue (.datum d) = .ok x ↔ (Value.datum d).convert b.valueType = .ok (.datum (b.toDatum x)) :=
        BaseType.ofValue_datum_eq_ok_iff.trans hconverted.symm
      exact htaken.trans (and_iff_left fun hnull => by cases hnull).symm
    | _ => exact iff_of_false (fun h => by cases h) fun h => by cases h.2 rfl
  | option t ih =>
    have hrequired : t.nullable = false := by simpa [flat] using h
    refine ofValue_option_eq_ok_iff.trans ?_
    by_cases hnull : v.isNull = true
    · have hconvert : v.convert (option t).valueType = .ok t.valueType.empty := convert_of_isNull hnull _
      rw [if_pos hnull, hconvert]
      match x with
      | none => exact iff_of_true rfl ⟨rfl, fun _ => rfl⟩
      | some y =>
        refine iff_of_false (fun h => by cases h) fun h => ?_
        have hdatum := isNull_toValue hrequired y
        rw [show t.toValue y = t.valueType.empty from (Except.ok.inj h.1).symm] at hdatum
        cases hdatum
    · rw [if_neg hnull]
      match x with
      | none => exact iff_of_false (fun ⟨_, h, _⟩ => by cases h) fun h => hnull (isNull_of_convert h.1).symm
      | some y =>
        constructor
        · rintro ⟨_, ⟨⟩, hy⟩
          exact ⟨((ih (flat_of_required hrequired)).1 hy).1, fun hv => absurd hv hnull⟩
        · rintro ⟨hy, -⟩
          exact ⟨y, rfl, (ih (flat_of_required hrequired)).2 ⟨hy, fun hv => absurd hv hnull⟩⟩
  | box t ih => exact ih h

/-- A datum of the right type is a stored native value, unless it is a discriminant without a variant. -/
theorem exists_toValue_iff {d : Datum} (h : d.type = t.valueType) : (∃ x, t.toValue x = .datum d) ↔ d.Defined := by
  induction t with
  | base b =>
    rw [← b.exists_toDatum_iff h]
    exact ⟨fun ⟨x, hx⟩ => ⟨x, Value.datum.inj hx⟩, fun ⟨x, hx⟩ => ⟨x, congrArg _ hx⟩⟩
  | option t ih =>
    rw [← ih h]
    constructor
    · rintro ⟨x, hx⟩
      match x with
      | none => cases hx
      | some y => exact ⟨y, hx⟩
    · rintro ⟨y, hy⟩
      exact ⟨(some y : Option t.Carrier), hy⟩
  | box t ih => exact ih h

/-- **What cannot be missing is taken from every value that converts**, if a discriminant has its variant. -/
theorem exists_ofValue_iff (h : t.nullable = false) : (∃ x, t.ofValue v = .ok x) ↔
    v.isNull = false ∧ ∃ d, v.convert t.valueType = .ok (.datum d) ∧ d.Defined := by
  constructor
  · rintro ⟨x, hx⟩
    obtain ⟨hconvert, hroom⟩ := (ofValue_eq_ok_iff (flat_of_required h)).1 hx
    have hnull : v.isNull = false := by
      rw [← Bool.not_eq_true]
      intro hnull
      rw [hroom hnull] at h
      cases h
    have hstored : t.Stored (t.toValue x) := ⟨x, rfl⟩
    rcases hstored.cases with ⟨d, hd, htype⟩ | ⟨-, hnullable⟩
    · exact ⟨hnull, d, hconvert.trans (congrArg _ hd), (exists_toValue_iff htype).1 ⟨x, hd⟩⟩
    · rw [h] at hnullable
      cases hnullable
  · rintro ⟨hnull, d, hd, hdefined⟩
    have htype : d.type = t.valueType := Option.some.inj (Value.convert_type? hd)
    obtain ⟨x, hx⟩ := (exists_toValue_iff htype).2 hdefined
    refine ⟨x, (ofValue_eq_ok_iff (flat_of_required h)).2 ⟨hd.trans (congrArg _ hx.symm), fun hv => ?_⟩⟩
    rw [hnull] at hv
    cases hv

/-! ## What may be missing -/

theorem present?_bijective (h : t.nullable = true) : Function.Bijective t.present? := by
  induction t with
  | base b => cases h
  | option t _ => exact ⟨fun _ _ h => h, fun y => ⟨y, rfl⟩⟩
  | box t ih => exact ih h

/-- **What may be missing is missing for a NULL**, and is for every other value what it is without that room. -/
theorem ofValue_present? (h : t.nullable = true) (v : Value) :
    (t.ofValue v).map t.present? = if v.isNull then .ok none else (t.required.ofValue v).map some := by
  induction t with
  | base b => cases h
  | option t _ =>
    show (if v.isNull then .ok (none : Option t.Carrier) else (t.ofValue v).map some).map id = _
    rw [Except.map_id]
    rfl
  | box t ih => exact ih h

theorem valueType_required (t : NativeType) : t.required.valueType = t.valueType := by
  induction t with
  | base b => rfl
  | option t _ => rfl
  | box t ih => exact ih

theorem exists_toValue_empty (h : t.nullable = true) : ∃ x, t.toValue x = t.valueType.empty := by
  induction t with
  | base b => cases h
  | option t _ => exact ⟨(none : Option t.Carrier), rfl⟩
  | box t ih => exact ih h

/-- **A type takes all its stored values back exactly if no more than one part of it may be missing.**  Where two parts
may be missing, their NULLs cannot be told apart. -/
theorem flat_iff : t.flat = true ↔ ∀ x, t.ofValue (t.toValue x) = .ok x := by
  induction t with
  | base b => exact iff_of_true rfl fun x => b.ofValue_toDatum x
  | option t ih =>
    constructor
    · intro h x
      have hrequired : t.nullable = false := by simpa [flat] using h
      match x with
      | none => exact if_pos rfl
      | some y =>
        have hpresent : ¬ (t.toValue y).isNull = true := by simp [isNull_toValue hrequired y]
        refine ofValue_option_eq_ok_iff.2 ?_
        exact (if_neg hpresent).mpr ⟨y, rfl, ih.1 (flat_of_required hrequired) y⟩
    · intro h
      by_contra hflat
      have hnullable : t.nullable = true := by simpa [flat] using hflat
      obtain ⟨y, hy⟩ := exists_toValue_empty hnullable
      have hback : (option t).ofValue (t.toValue y) = .ok (some y : Option t.Carrier) := h (some y : Option t.Carrier)
      rw [hy] at hback
      cases ofValue_option_eq_ok_iff.1 hback
  | box t ih => exact ih

/-- **Native values are what conversion gives.**  A type that cannot be missing takes a value exactly if it is no NULL
and converts to the stored form of the native value, and it takes all values that convert but the discriminants that no
variant has.  Where a value may be missing, behind pointers or in front of them, NULLs are missing and every other value
is what the type without that room takes it for, failures included.  Stored values are taken back, unless two parts of
the type may be missing. -/
theorem ofValue_lawful (t : NativeType) :
    (t.nullable = false → ∀ v,
      (∀ x, t.ofValue v = .ok x ↔ v.isNull = false ∧ ∃ w, v.convert t.valueType = .ok w ∧ w = t.toValue x) ∧
      ((∃ x, t.ofValue v = .ok x) ↔ v.isNull = false ∧ ∃ d, v.convert t.valueType = .ok (.datum d) ∧ d.Defined)) ∧
    (t.nullable = true → Function.Bijective t.present? ∧ t.required.valueType = t.valueType ∧ ∀ v,
      (t.ofValue v).map t.present? = if v.isNull then .ok none else (t.required.ofValue v).map some) ∧
    (t.flat = true ↔ ∀ x, t.ofValue (t.toValue x) = .ok x) := by
  refine ⟨fun h v => ⟨fun x => ?_, exists_ofValue_iff h⟩,
    fun h => ⟨present?_bijective h, valueType_required t, ofValue_present? h⟩, flat_iff⟩
  rw [ofValue_eq_ok_iff (flat_of_required h), h]
  simp [and_comm]

/-- The state of an order behind a pointer, if there is one. -/
def knownStatus : NativeType := .box (.option (.base Sample.orderStatusType))

/-- A state is read from its name, but not from a discriminant that no state has, and it is missing for a NULL of
whatever type. -/
theorem ofValue_lawful_status : (base Sample.orderStatusType).nullable = false ∧ knownStatus.nullable = true ∧
    (∃ x, (base Sample.orderStatusType).ofValue (.varchar " shipped") = .ok x) ∧
    (¬ ∃ x, (base Sample.orderStatusType).ofValue (.datum (.enumeration Sample.orderStatus (Sample.discriminant 99))) =
      .ok x) ∧
    (knownStatus.ofValue (.null .blob)).map knownStatus.present? = .ok none ∧
    ∀ x, knownStatus.ofValue (knownStatus.toValue x) = .ok x := by
  obtain ⟨htaken, -, -⟩ := ofValue_lawful (base Sample.orderStatusType)
  obtain ⟨-, hmissing, hback⟩ := ofValue_lawful knownStatus
  refine ⟨rfl, rfl, (htaken rfl _).2.2 ⟨rfl, .enumeration Sample.orderStatus (Sample.discriminant 2), by decide, ?_⟩,
    fun h => ?_, (hmissing rfl).2.2 _, hback.1 rfl⟩
  · exact ⟨⟨"Shipped", Sample.discriminant 2⟩, by decide, rfl⟩
  · obtain ⟨-, d, hd, hdefined⟩ := (htaken rfl _).2.1 h
    obtain rfl : .enumeration Sample.orderStatus (Sample.discriminant 99) = d := Value.datum.inj (Except.ok.inj hd)
    exact absurd hdefined (by decide : ¬ ∃ v ∈ Sample.orderStatus.variants, v.discriminant = Sample.discriminant 99)

end NativeType

end RowBinding
