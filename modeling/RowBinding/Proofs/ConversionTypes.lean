import RowBinding.Proofs.RelatedLists
import RowBinding.Value.Conversion
/-!
# The types of converted values

Cast and conversion are asked for a type and give a value of that type or none.  **What they give has the type they were
asked for** (`cast_type?`, `convert_type?`), be it a number, a text that was read, or the NULL of the type.
-/
namespace RowBinding

namespace Datum

variable {d r : Datum} {t : ValueType} {n : Int}

/-! ## Cast -/

theorem ofWrapped?_type (h : ofWrapped? t n = some r) : r.type = t := by
  unfold ofWrapped? at h
  split at h
  case h_4 =>
    obtain ⟨x, -, rfl⟩ := Option.map_eq_some_iff.1 h
    rfl
  case h_6 => cases h
  all_goals
    obtain rfl := Option.some.inj h
    rfl

theorem ofNumber?_type {x : Number} (h : ofNumber? t x = some r) : r.type = t := by
  cases x with
  | integer n => exact ofWrapped?_type h
  | float x =>
    simp only [ofNumber?] at h
    split at h
    · obtain rfl := Option.some.inj h
      rfl
    · obtain ⟨y, -, rfl⟩ := Option.map_eq_some_iff.1 h
      rfl
    · exact ofWrapped?_type h
  | decimal x =>
    simp only [ofNumber?] at h
    split at h
    · obtain rfl := Option.some.inj h
      rfl
    · obtain rfl := Option.some.inj h
      rfl
    · exact ofWrapped?_type h

theorem cast_type (h : d.cast t = .ok r) : r.type = t := by
  unfold cast at h
  split at h
  · rename_i ht
    obtain rfl := Except.ok.inj h
    exact ht
  · split at h
    · rename_i x hx
      obtain rfl := Except.ok.inj h
      obtain ⟨number, -, hnumber⟩ := Option.bind_eq_some_iff.1 hx
      exact ofNumber?_type hnumber
    · cases h

/-! ## Checked numbers -/

theorem ofChecked_type (h : ofChecked t n = .ok (some r)) : r.type = t := by
  unfold ofChecked at h
  repeat' split at h
  all_goals
    first
    | (obtain rfl := Option.some.inj (Except.ok.inj h); rfl)
    | cases h

theorem ofCheckedFloat_type {x : Binary .double} (h : ofCheckedFloat t x = .ok (some r)) : r.type = t := by
  unfold ofCheckedFloat at h
  split at h
  · obtain rfl := Option.some.inj (Except.ok.inj h)
    rfl
  · dsimp only at h
    split at h
    · cases h
    · obtain rfl := Option.some.inj (Except.ok.inj h)
      rfl
  · obtain ⟨y, -, rfl⟩ := Option.map_eq_some_iff.1 (Except.ok.inj h)
    rfl
  · obtain rfl := Option.some.inj (Except.ok.inj h)
    rfl
  · split at h
    · exact ofChecked_type h
    · cases h

theorem ofCheckedDecimal_type {x : Decimal} (h : ofCheckedDecimal t x = .ok (some r)) : r.type = t := by
  unfold ofCheckedDecimal at h
  split at h
  · obtain rfl := Option.some.inj (Except.ok.inj h)
    rfl
  · obtain rfl := Option.some.inj (Except.ok.inj h)
    rfl
  · split at h
    · exact ofChecked_type h
    · cases h

theorem ofCheckedNumber_type {x : Number} (h : ofCheckedNumber t x = .ok (some r)) : r.type = t := by
  cases x with
  | integer n => exact ofChecked_type h
  | float x => exact ofCheckedFloat_type h
  | decimal x => exact ofCheckedDecimal_type h

theorem convertNumber_type (h : d.convertNumber t = .ok r) : r.type = t := by
  unfold convertNumber at h
  split at h
  · cases h
  · split at h
    · cases h
    · rename_i hr
      obtain rfl := Except.ok.inj h
      exact ofCheckedNumber_type hr
    · cases h

/-! ## Reading text -/

variable {text : String}

theorem readInteger_type (h : readInteger text t = .ok r) : r.type = t := by
  unfold readInteger at h
  split at h
  · cases h
  · rename_i n _
    cases hchecked : ofChecked t n with
    | error fault =>
      rw [hchecked] at h
      cases h
    | ok found =>
      rw [hchecked] at h
      cases found with
      | none => cases h
      | some x =>
        obtain rfl : x = r := Except.ok.inj h
        exact ofChecked_type hchecked

theorem readWith_type {ε β : Type} {fault : ε → TextFault} {datum : β → Datum} {x : Except ε β}
    (hdatum : ∀ b, (datum b).type = t) (h : readWith text t fault datum x = .ok r) : r.type = t := by
  cases x with
  | error e => cases h
  | ok b =>
    obtain rfl : datum b = r := Except.ok.inj h
    exact hdatum b

theorem read_type (h : read text t = .ok r) : r.type = t := by
  cases t with
  | boolean =>
    simp only [read] at h
    split at h
    · obtain rfl := Except.ok.inj h
      rfl
    · cases h
  | integer k => exact readInteger_type h
  | varchar | blob =>
    obtain rfl := Except.ok.inj h
    rfl
  | enumeration e =>
    simp only [read] at h
    split at h
    · obtain rfl := Except.ok.inj h
      rfl
    · exact readInteger_type h
  | _ => exact readWith_type (fun _ => rfl) h

/-! ## Conversion -/

theorem convertTo_type (h : d.convertTo t = .ok r) : r.type = t := by
  unfold convertTo at h
  split at h
  · rename_i s
    cases hread : read s t with
    | error fault =>
      rw [hread] at h
      cases h
    | ok x =>
      rw [hread] at h
      obtain rfl : x = r := Except.ok.inj h
      exact read_type hread
  · unfold matchVariant at h
    split at h
    · obtain rfl := Except.ok.inj h
      rfl
    · cases h
  case h_4 =>
    split at h
    · obtain rfl := Except.ok.inj h
      rfl
    · cases h
  case h_10 | h_11 =>
    obtain ⟨u, -, rfl⟩ := Result.map_eq_ok_iff.1 h
    rfl
  case h_12 => exact convertNumber_type h
  all_goals
    obtain rfl := Except.ok.inj h
    rfl

theorem convert_type (h : d.convert t = .ok r) : r.type = t := by
  unfold convert at h
  split at h
  · rename_i ht
    obtain rfl := Except.ok.inj h
    exact ht
  · exact convertTo_type h

end Datum

namespace Value

variable {v w : Value} {t : ValueType}

/-- **A cast gives the type it was asked for.** -/
theorem cast_type? (h : v.cast t = .ok w) : w.type? = some t := by
  cases v with
  | datum d =>
    obtain ⟨r, hr, rfl⟩ := Result.map_eq_ok_iff.1 h
    exact congrArg some (Datum.cast_type hr)
  | _ =>
    obtain rfl : t.empty = w := Except.ok.inj h
    rfl

/-- **A conversion gives the type it was asked for.** -/
theorem convert_type? (h : v.convert t = .ok w) : w.type? = some t := by
  cases v with
  | datum d =>
    obtain ⟨r, hr, rfl⟩ := Result.map_eq_ok_iff.1 h
    exact congrArg some (Datum.convert_type hr)
  | _ =>
    obtain rfl : t.empty = w := Except.ok.inj h
    rfl

end Value

end RowBinding
