import RowBinding.Proofs.StoredValues
import RowBinding.Plan.Coercion
import RowBinding.Rules.Resolution
/-!
# Variants there and back

A variant of an enumeration is stored by its name, by its discriminant, or as it is.  **Where the names of the variants
differ in more than case, a variant that was rendered in any of these ways is read back as itself**
(`convert_variant_back`).
-/
namespace RowBinding

namespace EnumDef

/-- No two variants have the same name, and no name has blanks around it, as identifiers have none. -/
structure Legible (e : EnumDef) : Prop where
  trimmed : ∀ v ∈ e.variants, Text.trimmed v.name = v.name.toList
  distinct : (e.variants.map fun v => Text.folded v.name).Nodup

theorem nameOf?_eq_some {e : EnumDef} {n : Int} {name : String} (h : e.nameOf? n = some name) :
    ∃ v ∈ e.variants, v.discriminant.toInt = n ∧ v.name = name := by
  obtain ⟨v, hv, rfl⟩ := Option.map_eq_some_iff.1 h
  have hn := List.find?_some hv
  exact ⟨v, List.mem_of_find?_eq_some hv, by simpa using hn, rfl⟩

/-- A variant is found again by its name. -/
theorem discriminantOf?_name {e : EnumDef} (h : e.Legible) {v : Variant} (hv : v ∈ e.variants) :
    e.discriminantOf? v.name = some v.discriminant := by
  obtain ⟨w, hw⟩ : ∃ w, e.variants.find? (fun w => Text.sameName w.name v.name) = some w := by
    rw [← Option.isSome_iff_exists, List.find?_isSome]
    exact ⟨v, hv, Text.sameName_refl _⟩
  have hsame := List.find?_some hw
  have hwv : w = v := List.inj_on_of_nodup_map h.distinct (List.mem_of_find?_eq_some hw) hv (Text.sameName_iff.1 hsame)
  rw [discriminantOf?, hw, hwv]
  rfl

end EnumDef

theorem Bounded.eq_of_toInt {k : IntKind} {m n : Bounded k} (h : m.toInt = n.toInt) : m = n := by
  obtain ⟨m, hm⟩ := m
  obtain ⟨n, hn⟩ := n
  obtain rfl : m = n := h
  rfl

theorem Bounded.toInt_of_ofInt? {k : IntKind} {n : Int} {b : Bounded k} (h : Bounded.ofInt? k n = some b) :
    b.toInt = n := by
  unfold Bounded.ofInt? at h
  split at h
  · rw [← Option.some.inj h]
  · cases h

theorem Decimal.of_ofInt? {n : Int} {x : Decimal} (h : Decimal.ofInt? n = some x) :
    x.isIntegral = true ∧ x.truncated = n := by
  unfold Decimal.ofInt? Decimal.ofParts? Decimal.signed? at h
  split at h
  · rw [← Option.some.inj h]
    refine ⟨by simp [Decimal.isIntegral, Nat.mod_one], ?_⟩
    simp only [Decimal.truncated, Nat.pow_zero, Nat.div_one]
    split
    · rename_i hneg
      simp only [Bool.and_eq_true, decide_eq_true_eq] at hneg
      omega
    · rename_i hneg
      simp only [Bool.and_eq_true, decide_eq_true_eq, bne_iff_ne, ne_eq, not_and, not_not] at hneg
      omega
  · cases h

/-! ## Rendering and reading -/

namespace StorageType

/-- The storage types in which every variant can be told from the others: text, decimals, integers, and `Object`, which
leaves values as they are. -/
def keepsVariants : StorageType → Bool
  | ansiString | string | object | decimal | currency => true
  | byte | sbyte | int16 | int32 | int64 | uint16 | uint32 | uint64 => true
  | _ => false

theorem valueType?_of_keepsVariants {s : StorageType} (h : s.keepsVariants = true) {t : ValueType}
    (ht : s.valueType? = some t) : t = .varchar ∨ t = .decimal ∨ ∃ k, t = .integer k := by
  cases s <;> simp [keepsVariants] at h <;> simp [valueType?] at ht <;> subst ht <;> simp

end StorageType

namespace Datum

theorem ofChecked_variant {e : EnumDef} {n : Discriminant} (h : e.contains n.toInt = true) :
    ofChecked (.enumeration e) n.toInt = .ok (some (.enumeration e n)) := by
  unfold ofChecked
  dsimp only
  rw [Bounded.ofInt?_toInt]
  dsimp only
  rw [if_pos h]

/-- **A variant that was rendered is read back as itself.** -/
theorem convert_variant_back {e : EnumDef} (he : e.Legible) {n : Discriminant} (hn : e.contains n.toInt = true)
    {s : StorageType} (hs : s.keepsVariants = true) {t : ValueType} (ht : s.valueType? = some t) {d : Datum}
    (hd : (enumeration e n).convert t = .ok d) :
    d.type = t ∧ t ≠ .enumeration e ∧ d.convert (.enumeration e) = .ok (enumeration e n) := by
  rcases StorageType.valueType?_of_keepsVariants hs ht with rfl | rfl | ⟨k, rfl⟩
  · obtain ⟨name, hname⟩ := Option.isSome_iff_exists.1 hn
    obtain ⟨v, hv, hvn, rfl⟩ := EnumDef.nameOf?_eq_some hname
    have hd' : d = .varchar v.name := by
      rw [← Except.ok.inj hd, text, hname]
      rfl
    subst hd'
    refine ⟨rfl, by simp, ?_⟩
    have hread : read v.name (.enumeration e) = .ok (.enumeration e n) := by
      unfold read
      rw [he.trimmed v hv]
      dsimp only
      rw [String.ofList_toList, EnumDef.discriminantOf?_name he hv, Bounded.eq_of_toInt hvn]
    show orFail (read v.name (.enumeration e)) = _
    rw [hread]
    rfl
  · simp only [convert, type, reduceCtorEq, if_false, convertTo, convertNumber, number?, ofCheckedNumber, ofChecked] at hd
    cases hx : Decimal.ofInt? n.toInt with
    | none =>
      rw [hx] at hd
      cases hd
    | some x =>
      rw [hx] at hd
      obtain rfl : decimal x = d := Except.ok.inj hd
      obtain ⟨hintegral, htruncated⟩ := Decimal.of_ofInt? hx
      refine ⟨rfl, by simp, ?_⟩
      simp only [convert, type, reduceCtorEq, if_false, convertTo, convertNumber, number?, ofCheckedNumber,
        ofCheckedDecimal, hintegral, if_true, htruncated, ofChecked_variant hn]
  · simp only [convert, type, reduceCtorEq, if_false, convertTo, convertNumber, number?, ofCheckedNumber, ofChecked] at hd
    cases hb : Bounded.ofInt? k n.toInt with
    | none =>
      rw [hb] at hd
      cases hd
    | some b =>
      rw [hb] at hd
      obtain rfl : integer k b = d := Except.ok.inj hd
      refine ⟨rfl, by simp, ?_⟩
      simp only [convert, type, reduceCtorEq, if_false, convertTo, convertNumber, number?, ofCheckedNumber,
        Bounded.toInt_of_ofInt? hb, ofChecked_variant hn]

end Datum

end RowBinding
