import RowBinding.Proofs.ConversionLaws
import RowBinding.Sample.Structs
/-!
# On the way through the type of a store field

In automatic mode a value that leaves a member becomes a value of the store field's type, and a variant is then rendered
in the representation of its storage type.  **The resolved coercion takes both steps unless the field holds variants, the
value does not, and the storage type has a representation** (`resolveOutbound_throughField`).  In that case the value
goes straight to the representation, and whether it is a variant at all is not looked at.
-/
namespace RowBinding

variable {α : Type}

/-- The type in which values of a type are rendered: variants have that of their storage type. -/
def representation? (t : ValueType) (storage : Option StorageType) : Option ValueType :=
  if t.isEnum then storage.bind (·.valueType?) else none

theorem representation?_eq_some {t s : ValueType} {storage : Option StorageType} (h : representation? t storage = some s) :
    (∃ e, t = .enumeration e) ∧ s.isEnum = false := by
  unfold representation? at h
  split at h
  · rename_i ht
    obtain ⟨tag, -, hs⟩ := Option.bind_eq_some_iff.1 h
    refine ⟨?_, ?_⟩
    · cases t with
      | enumeration e => exact ⟨e, rfl⟩
      | _ => cases ht
    · cases tag <;> simp [StorageType.valueType?] at hs <;> subst hs <;> rfl
  · cases h

namespace Value

/-- The value as one of a type, and then in the representation of the storage type. -/
def throughField (v : Value) (t : ValueType) (storage : Option StorageType) : Result Value := do
  let inField ← v.convert t
  match representation? t storage with
  | some s => inField.convert s
  | none => return inField

variable {v : Value} {t s : ValueType} {storage : Option StorageType}

theorem convert_of_type? (h : v.type? = some t) : v.convert t = .ok v := lawful_convert.unchanged v t h

theorem throughField_of_none (h : representation? t storage = none) : v.throughField t storage = v.convert t := by
  unfold throughField
  rw [h]
  exact bind_pure _

theorem throughField_of_some (h : representation? t storage = some s) :
    v.throughField t storage = v.convert t >>= (·.convert s) := by
  unfold throughField
  rw [h]

theorem throughField_of_type? (hv : v.type? = some t) (h : representation? t storage = some s) :
    v.throughField t storage = v.convert s := by
  rw [throughField_of_some h, convert_of_type? hv]
  rfl

theorem throughField_null (hv : v.isNull = true) (h : representation? t storage = some s) :
    v.throughField t storage = v.convert s := by
  rw [throughField_of_some h]
  cases v with
  | datum d => cases hv
  | untyped => rfl
  | null u => rfl

end Value

namespace Datum

variable {k : IntKind} {b : Bounded k} {e : EnumDef} {s : ValueType} {d : Datum}

theorem convert_integer_eq_ok (hs : s ≠ .varchar) :
    (integer k b).convert s = .ok d ↔ ofChecked s b.toInt = .ok (some d) := by
  by_cases htype : s = .integer k
  · subst htype
    have hconvert : (integer k b).convert (.integer k) = .ok (integer k b) := if_pos rfl
    rw [hconvert, ofChecked, Bounded.ofInt?_toInt]
    simp
  · have hconvert : (integer k b).convert s = (integer k b).convertTo s := if_neg fun h => htype h.symm
    have hnumber : (integer k b).convertTo s = (integer k b).convertNumber s := by
      cases s with
      | varchar => exact absurd rfl hs
      | _ => rfl
    rw [hconvert, hnumber]
    exact convertNumber_eq_ok (x := .integer b.toInt) rfl

theorem convert_variant_eq_ok {n : Discriminant} (henum : s.isEnum = false) (hs : s ≠ .varchar) :
    (enumeration e n).convert s = .ok d ↔ ofChecked s n.toInt = .ok (some d) := by
  have hnumber : (enumeration e n).convert s = (enumeration e n).convertNumber s := by
    cases s with
    | varchar => exact absurd rfl hs
    | enumeration f => cases henum
    | _ => rfl
  rw [hnumber]
  exact convertNumber_eq_ok (x := .integer n.toInt) rfl

end Datum

namespace Value

variable {k : IntKind} {b : Bounded k} {e : EnumDef} {s : ValueType} {storage : Option StorageType} {w : Value}

theorem throughField_integer_eq_ok (h : representation? (.enumeration e) storage = some s) :
    (datum (.integer k b)).throughField (.enumeration e) storage = .ok w ↔
      e.contains b.toInt = true ∧ ∃ m : Discriminant, m.toInt = b.toInt ∧ (datum (.enumeration e m)).convert s = .ok w := by
  have hne : ValueType.enumeration e ≠ .varchar := nofun
  rw [throughField_of_some h, Result.bind_eq_ok_iff]
  constructor
  · rintro ⟨variant, hvariant, hw⟩
    obtain ⟨x, hx, rfl⟩ := convert_datum_eq_ok.1 hvariant
    obtain ⟨variant, hmem, hm, rfl⟩ := Datum.ofChecked_enumeration_iff.1 ((Datum.convert_integer_eq_ok hne).1 hx)
    exact ⟨EnumDef.contains_iff.2 ⟨variant, hmem, hm⟩, variant.discriminant, hm, hw⟩
  · rintro ⟨hmem, m, hm, hw⟩
    have hchecked : Datum.ofChecked (.enumeration e) b.toInt = .ok (some (.enumeration e m)) := by
      rw [← hm] at hmem ⊢
      exact Datum.ofChecked_variant hmem
    have hx := (Datum.convert_integer_eq_ok hne).2 hchecked
    exact ⟨_, convert_datum_eq_ok.2 ⟨_, hx, rfl⟩, hw⟩

/-- Through the type of the field an integer goes exactly if it is the discriminant of a variant, and then as if there
were no field. -/
theorem throughField_integer (h : representation? (.enumeration e) storage = some s) (hs : s ≠ .varchar) :
    (datum (.integer k b)).throughField (.enumeration e) storage = .ok w ↔
      e.contains b.toInt = true ∧ (datum (.integer k b)).convert s = .ok w := by
  have henum := (representation?_eq_some h).2
  rw [throughField_integer_eq_ok h]
  refine and_congr_right fun hmem => ?_
  simp only [convert_datum_eq_ok, Datum.convert_integer_eq_ok hs, Datum.convert_variant_eq_ok henum hs]
  constructor
  · rintro ⟨m, hm, r, hr, hw⟩
    exact ⟨r, hm ▸ hr, hw⟩
  · rintro ⟨r, hr, hw⟩
    obtain ⟨variant, -, hm⟩ := EnumDef.contains_iff.1 hmem
    exact ⟨variant.discriminant, hm, r, hm ▸ hr, hw⟩

/-- As text it is the name of the variant. -/
theorem throughField_integer_text (h : representation? (.enumeration e) storage = some .varchar) :
    (datum (.integer k b)).throughField (.enumeration e) storage = .ok w ↔
      ∃ name, e.nameOf? b.toInt = some name ∧ w = datum (.varchar name) := by
  have hrendered : ∀ m : Discriminant, m.toInt = b.toInt → (datum (.enumeration e m)).convert .varchar =
      .ok (datum (.varchar ((e.nameOf? b.toInt).getD (Numeral.text b.toInt)))) := by
    intro m hm
    rw [← hm]
    rfl
  rw [throughField_integer_eq_ok h]
  constructor
  · rintro ⟨hmem, m, hm, hw⟩
    obtain ⟨name, hname⟩ := Option.isSome_iff_exists.1 hmem
    rw [hrendered m hm, hname] at hw
    exact ⟨name, hname, (Except.ok.inj hw).symm⟩
  · rintro ⟨name, hname, rfl⟩
    have hmem : e.contains b.toInt = true := Option.isSome_iff_exists.2 ⟨name, hname⟩
    obtain ⟨variant, -, hm⟩ := EnumDef.contains_iff.1 hmem
    refine ⟨hmem, variant.discriminant, hm, ?_⟩
    rw [hrendered _ hm, hname]
    rfl

end Value

/-! ## Resolution in automatic mode -/

namespace Rules

/-- The type of the values that leave a member: its own, or that in which its handler stores them. -/
def outboundType (r : Rules α) (members : List OutboundMember) (memberType : ValueType) : ValueType :=
  ((r.firstHandler? members).map (·.storage)).getD memberType

theorem rendered_eq (t : ValueType) (coercion : Coercion) (storage : Option StorageType) :
    (rendered t coercion storage).2 =
      match representation? t storage with
      | some s => .convert s
      | none => coercion := by
  unfold rendered representation?
  cases t.isEnum <;> cases storage.bind (·.valueType?) <;> rfl

variable {rules : Rules α}

theorem towardField_automatic (h : rules.settings.mode = .automatic) (own t : ValueType) :
    rules.towardField own (some t) = (t, if t = own then .identity else .convert t) := by
  unfold towardField
  rw [h]
  dsimp only
  split
  · rename_i ht
    rw [ht]
  · rfl

/-- The storage type is that of the field, and so is the coercion unless variants are rendered. -/
theorem resolveOutbound_automatic (h : rules.settings.mode = .automatic) (members : List OutboundMember)
    (memberType t : ValueType) :
    (rules.resolveOutbound members memberType (some t)).storage = rules.storageOf members t ∧
      (rules.resolveOutbound members memberType (some t)).coercion =
        match representation? t (rules.storageOf members t) with
        | some s => .convert s
        | none => if t = rules.outboundType members memberType then .identity else .convert t := by
  have hresolved : rules.resolveOutbound members memberType (some t) =
      let toward := rules.towardField (rules.outboundType members memberType) (some t)
      let storage := rules.storageOf members toward.1
      let last := rendered toward.1 toward.2 storage
      ⟨last.1, last.2, rules.firstHandler? members, storage⟩ := rfl
  rw [hresolved, towardField_automatic h]
  exact ⟨rfl, rendered_eq ..⟩

/-- **In automatic mode a value goes through the type of its store field, unless the field holds variants, the value is
none, and variants are rendered.**  Then it is rendered as if there were no field: a NULL comes out the same, but an
integer is not looked up among the discriminants, and as text it is a numeral where the variant has a name. -/
theorem resolveOutbound_throughField (rules : Rules α) (members : List OutboundMember) (memberType t : ValueType)
    (hmode : rules.settings.mode = .automatic) :
    let rule := rules.resolveOutbound members memberType (some t)
    let own := rules.outboundType members memberType
    (∀ v : Value, (t = own → v.type? = some own) → t = own ∨ representation? t rule.storage = none →
      rule.coercion.apply v = v.throughField t rule.storage) ∧
    ∀ s, t ≠ own → representation? t rule.storage = some s →
      (∀ v : Value, rule.coercion.apply v = v.convert s) ∧
      (∀ v : Value, v.isNull = true → rule.coercion.apply v = v.throughField t rule.storage) ∧
      ∀ e k (b : Bounded k) w, t = .enumeration e →
        ((Value.datum (.integer k b)).throughField t rule.storage = .ok w ↔
          if s = .varchar then ∃ name, e.nameOf? b.toInt = some name ∧ w = .datum (.varchar name)
          else e.contains b.toInt = true ∧ rule.coercion.apply (.datum (.integer k b)) = .ok w) := by
  dsimp only
  obtain ⟨hstorage, hcoercion⟩ := resolveOutbound_automatic hmode members memberType t
  rw [hstorage, hcoercion]
  constructor
  · intro v hv hcase
    cases hs : representation? t (rules.storageOf members t) with
    | some s =>
      have hown : t = rules.outboundType members memberType := hcase.resolve_right (by simp [hs])
      rw [Value.throughField_of_type? (hown ▸ hv hown) hs]
      rfl
    | none =>
      rw [Value.throughField_of_none hs]
      dsimp only
      split
      · rename_i hown
        rw [hown, Value.convert_of_type? (hv hown)]
        rfl
      · rfl
  · intro s hown hs
    rw [hs]
    refine ⟨fun v => rfl, fun v hv => (Value.throughField_null hv hs).symm, ?_⟩
    rintro e k b w rfl
    split
    · rename_i htext
      subst htext
      exact Value.throughField_integer_text hs
    · rename_i htext
      exact Value.throughField_integer hs htext

/-- The member of a counter, and rules under which variants are text. -/
def counterMember : List OutboundMember := [⟨"Counter", "a"⟩]

def automaticRules : Rules Unit := .ofSettings { mode := .automatic }

/-- A number that is no variant reaches a column of variants. -/
theorem resolveOutbound_skips_field :
    let rule := automaticRules.resolveOutbound counterMember (.integer .int32) (some (.enumeration Sample.orderStatus))
    let v := Value.datum (.integer .int32 (.wrapped .int32 99))
    automaticRules.settings.mode = .automatic ∧ v.type? = some (automaticRules.outboundType counterMember (.integer .int32)) ∧
      rule.coercion.apply v = .ok (.datum (.varchar "99")) ∧
      v.throughField (.enumeration Sample.orderStatus) rule.storage =
        .error (.value (.undefinedVariant 99 Sample.orderStatus)) := by
  decide

/-- Where variants are stored as they are, it does not. -/
theorem resolveOutbound_checks_field :
    let rules : Rules Unit := .ofSettings { mode := .automatic, enumStorage := .object }
    let rule := rules.resolveOutbound counterMember (.integer .int32) (some (.enumeration Sample.orderStatus))
    let v := Value.datum (.integer .int32 (.wrapped .int32 99))
    rules.settings.mode = .automatic ∧ representation? (.enumeration Sample.orderStatus) rule.storage = none ∧
      rule.coercion.apply v = .error (.value (.undefinedVariant 99 Sample.orderStatus)) := by
  intro rules rule v
  have hmode : rules.settings.mode = .automatic := rfl
  have hstorage : representation? (.enumeration Sample.orderStatus) rule.storage = none := by decide
  refine ⟨hmode, hstorage, ?_⟩
  rw [(resolveOutbound_throughField rules counterMember (.integer .int32) (.enumeration Sample.orderStatus) hmode).1 v nofun
    (.inr hstorage)]
  decide

end Rules

end RowBinding
