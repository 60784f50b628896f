import RowBinding.Proofs.ConversionTypes
import RowBinding.Proofs.Variants
/-!
# What every conversion keeps

Planning relies on a cast or a conversion without looking at its result.  **Both give the type that was asked for, turn
NULLs into NULLs and nothing else into one, leave a value of the type alone, and do nothing the second time**
(`Value.conversions_lawful`).  A conversion to an enumeration from any other type gives one of its variants; a cast, which
takes numbers as they are, need not.
-/
namespace RowBinding

/-! ## Variants -/

namespace EnumDef

variable {e : EnumDef}

theorem contains_iff {n : Int} : e.contains n = true ↔ ∃ v ∈ e.variants, v.discriminant.toInt = n := by
  rw [contains, nameOf?, Option.isSome_map, List.find?_isSome]
  simp only [beq_iff_eq]

theorem mem_of_discriminantOf? {name : String} {n : Discriminant} (h : e.discriminantOf? name = some n) :
    ∃ v ∈ e.variants, v.discriminant = n := by
  obtain ⟨v, hv, rfl⟩ := Option.map_eq_some_iff.1 h
  exact ⟨v, List.mem_of_find?_eq_some hv, rfl⟩

end EnumDef

namespace Datum

variable {d r : Datum} {e : EnumDef}

theorem convertNumber_eq_ok {t : ValueType} {x : Number} (hx : d.number? = some x) :
    d.convertNumber t = .ok r ↔ ofCheckedNumber t x = .ok (some r) := by
  unfold convertNumber
  rw [hx]
  dsimp only
  cases ofCheckedNumber t x with
  | error fault => simp
  | ok found =>
    cases found with
    | none => simp
    | some y => simp

/-- **An integer is checked against the discriminants**: it gives the variant that has it, if there is one. -/
theorem ofChecked_enumeration_iff {n : Int} : ofChecked (.enumeration e) n = .ok (some r) ↔
    ∃ v ∈ e.variants, v.discriminant.toInt = n ∧ r = enumeration e v.discriminant := by
  constructor
  · intro h
    unfold ofChecked at h
    dsimp only at h
    split at h
    · rename_i b hb
      split at h
      · rename_i hcontains
        obtain ⟨v, hv, hvb⟩ := EnumDef.contains_iff.1 hcontains
        obtain rfl := Option.some.inj (Except.ok.inj h)
        exact ⟨v, hv, hvb.trans (Bounded.toInt_of_ofInt? hb), by rw [Bounded.eq_of_toInt hvb]⟩
      · cases h
    · cases h
  · rintro ⟨v, hv, rfl, rfl⟩
    exact ofChecked_variant (EnumDef.contains_iff.2 ⟨v, hv, rfl⟩)

theorem exists_ofChecked_of_number {x : Number} (h : ofCheckedNumber (.enumeration e) x = .ok (some r)) :
    ∃ n, ofChecked (.enumeration e) n = .ok (some r) := by
  cases x with
  | integer n => exact ⟨n, h⟩
  | float x =>
    simp only [ofCheckedNumber, ofCheckedFloat] at h
    split at h
    · exact ⟨_, h⟩
    · cases h
  | decimal x =>
    simp only [ofCheckedNumber, ofCheckedDecimal] at h
    split at h
    · exact ⟨_, h⟩
    · cases h

theorem exists_ofChecked_of_readInteger {text : String} {t : ValueType} (h : readInteger text t = .ok r) :
    ∃ n, ofChecked t n = .ok (some r) := by
  unfold readInteger at h
  split at h
  · cases h
  · rename_i n _
    cases hchecked : ofChecked t n with
    | error fault =>
      rw [hchecked] at h
      cases h
    | ok found =>
      rw [hchecked] at h
      cases found with
      | none => cases h
      | some x => exact ⟨n, by rw [hchecked, show x = r from Except.ok.inj h]⟩

theorem orFail_eq_ok_iff {β : Type} {x : Except ValueFault β} {b : β} : orFail x = .ok b ↔ x = .ok b := by
  cases x with
  | ok c => exact ⟨fun h => congrArg _ (Except.ok.inj h), fun h => congrArg _ (Except.ok.inj h)⟩
  | error fault => exact ⟨fun h => (by cases h), fun h => (by cases h)⟩

theorem mem_of_read {text : String} (h : read text (.enumeration e) = .ok r) :
    ∃ v ∈ e.variants, r = enumeration e v.discriminant := by
  simp only [read] at h
  split at h
  · rename_i n hn
    obtain rfl := Except.ok.inj h
    obtain ⟨v, hv, rfl⟩ := EnumDef.mem_of_discriminantOf? hn
    exact ⟨v, hv, rfl⟩
  · obtain ⟨n, hn⟩ := exists_ofChecked_of_readInteger h
    obtain ⟨v, hv, -, hr⟩ := ofChecked_enumeration_iff.1 hn
    exact ⟨v, hv, hr⟩

theorem mem_of_convertNumber (h : d.convertNumber (.enumeration e) = .ok r) :
    ∃ v ∈ e.variants, r = enumeration e v.discriminant := by
  cases hx : d.number? with
  | none =>
    rw [convertNumber, hx] at h
    cases h
  | some x =>
    obtain ⟨n, hn⟩ := exists_ofChecked_of_number ((convertNumber_eq_ok hx).1 h)
    obtain ⟨v, hv, -, hr⟩ := ofChecked_enumeration_iff.1 hn
    exact ⟨v, hv, hr⟩

theorem mem_of_matchVariant {f : EnumDef} {n : Discriminant} (h : matchVariant f n e = .ok r) :
    ∃ v ∈ e.variants, r = enumeration e v.discriminant := by
  unfold matchVariant at h
  split at h
  · rename_i m hm
    obtain rfl := Except.ok.inj h
    obtain ⟨name, -, hname⟩ := Option.bind_eq_some_iff.1 hm
    obtain ⟨v, hv, rfl⟩ := EnumDef.mem_of_discriminantOf? hname
    exact ⟨v, hv, rfl⟩
  · cases h

/-- **A conversion to an enumeration gives one of its variants.** -/
theorem mem_of_convertTo (h : d.convertTo (.enumeration e) = .ok r) :
    ∃ v ∈ e.variants, r = enumeration e v.discriminant := by
  unfold convertTo at h
  split at h
  · exact mem_of_read (orFail_eq_ok_iff.1 h)
  · rename_i heq
    cases heq
    exact mem_of_matchVariant h
  case h_12 => exact mem_of_convertNumber h
  all_goals rename_i heq; cases heq

end Datum

/-! ## Laws -/

namespace Value

theorem convert_datum_eq_ok {d : Datum} {t : ValueType} {w : Value} :
    (datum d).convert t = .ok w ↔ ∃ r, d.convert t = .ok r ∧ w = datum r := by
  have hconvert : (datum d).convert t = (d.convert t).map datum := rfl
  rw [hconvert, Result.map_eq_ok_iff]
  simp only [eq_comm]

/-- What a way from one type to another owes to those who rely on it. -/
structure LawfulChange (change : Value → ValueType → Result Value) : Prop where
  /-- What comes out has the type that was asked for. -/
  typed : ∀ v t w, change v t = .ok w → w.type? = some t
  /-- A NULL comes out exactly where one went in. -/
  keepsNull : ∀ v t w, change v t = .ok w → w.isNull = v.isNull
  /-- Every NULL becomes the NULL of the type. -/
  null : ∀ v t, v.isNull = true → change v t = .ok (.null t)
  /-- A value of the type stays as it is. -/
  unchanged : ∀ v t, v.type? = some t → change v t = .ok v
  /-- The second time nothing happens. -/
  settled : ∀ v t w, change v t = .ok w → change w t = .ok w

/-- A change that is made of one of data, and that knows of a NULL only the type it is to have, is lawful if it gives the
type that was asked for and leaves a datum of that type alone. -/
theorem lawful_of_datum {change : Value → ValueType → Result Value} {step : Datum → ValueType → Result Datum}
    (huntyped : ∀ t, change .untyped t = .ok (.null t)) (hnull : ∀ s t, change (.null s) t = .ok (.null t))
    (hdatum : ∀ d t, change (.datum d) t = (step d t).map datum) (hsame : ∀ d, step d d.type = .ok d)
    (htyped : ∀ v t w, change v t = .ok w → w.type? = some t) : LawfulChange change := by
  have hunchanged : ∀ v t, v.type? = some t → change v t = .ok v := by
    intro v t h
    cases v with
    | untyped => cases h
    | null s =>
      obtain rfl := Option.some.inj h
      exact hnull s s
    | datum d =>
      obtain rfl := Option.some.inj h
      rw [hdatum, hsame]
      rfl
  refine ⟨htyped, fun v t w h => ?_, fun v t h => ?_, hunchanged, fun v t w h => hunchanged w t (htyped v t w h)⟩
  · cases v with
    | untyped => rw [← Except.ok.inj ((huntyped t).symm.trans h)]; rfl
    | null s => rw [← Except.ok.inj ((hnull s t).symm.trans h)]; rfl
    | datum d =>
      rw [hdatum] at h
      obtain ⟨r, -, rfl⟩ := Result.map_eq_ok_iff.1 h
      rfl
  · cases v with
    | untyped => exact huntyped t
    | null s => exact hnull s t
    | datum d => cases h

theorem lawful_cast : LawfulChange cast :=
  lawful_of_datum (fun _ => rfl) (fun _ _ => rfl) (fun _ _ => rfl) (fun _ => if_pos rfl) fun _ _ _ => cast_type?

theorem lawful_convert : LawfulChange convert :=
  lawful_of_datum (fun _ => rfl) (fun _ _ => rfl) (fun _ _ => rfl) (fun _ => if_pos rfl) fun _ _ _ => convert_type?

/-- **Cast and conversion keep types and NULLs**, and a conversion from another type to an enumeration gives a NULL or
one of its variants. -/
theorem conversions_lawful : LawfulChange cast ∧ LawfulChange convert ∧
    ∀ (v : Value) (e : EnumDef) (d : Datum), v.type? ≠ some (.enumeration e) →
      v.convert (.enumeration e) = .ok (.datum d) → ∃ variant ∈ e.variants, d = .enumeration e variant.discriminant := by
  refine ⟨lawful_cast, lawful_convert, fun v e d hv h => ?_⟩
  cases v with
  | datum source =>
    obtain ⟨r, hr, hd⟩ := convert_datum_eq_ok.1 h
    obtain rfl : d = r := Value.datum.inj hd
    have hne : source.type ≠ .enumeration e := fun heq => hv (congrArg some heq)
    rw [Datum.convert, if_neg hne] at hr
    exact Datum.mem_of_convertTo hr
  | _ => cases h

/-- A cast makes a discriminant of a number that no variant has. -/
example : (integer (k := .int8) ⟨7, by decide⟩).cast (.enumeration ⟨"Empty", []⟩) =
    .ok (.datum (.enumeration ⟨"Empty", []⟩ ⟨7, by decide⟩)) := by
  decide

end Value

end RowBinding
