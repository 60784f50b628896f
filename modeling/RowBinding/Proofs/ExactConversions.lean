import Mathlib.Algebra.Order.Field.Rat
import Mathlib.Tactic.NormNum
import RowBinding.Proofs.ConversionLaws
/-!
# Conversions of exact numbers

Truth values, integers, discriminants and decimals denote numbers exactly.  **Converted to an integer type, to a decimal
or to an enumeration such a value gives the same number, or fails because the type does not have it**
(`Value.convert_exact`): an integer type has the integers of its width and sign, an enumeration the discriminants of its
variants, and decimals have every number that such a value denotes.
-/
namespace RowBinding

/-! ## What values denote -/

/-- The number that a decimal denotes. -/
def Decimal.toRat (x : Decimal) : ℚ := x.signed / 10 ^ x.scale

/-- The number that a datum denotes exactly. -/
def Datum.denotes? : Datum → Option ℚ
  | boolean b => some (if b then 1 else 0)
  | integer _ n => some n.toInt
  | decimal x => some x.toRat
  | enumeration _ n => some n.toInt
  | _ => none

namespace IntKind

/-- The kinds that have negative numbers. -/
def isSigned : IntKind → Bool
  | int8 | int16 | int32 | int64 => true
  | uint8 | uint16 | uint32 | uint64 => false

/-- The numbers that two's complement writes with the bits of the kind, or plain binary if it has no sign. -/
def Spans (k : IntKind) (n : ℤ) : Prop :=
  if k.isSigned then -2 ^ (k.bits - 1) ≤ n ∧ n < 2 ^ (k.bits - 1) else 0 ≤ n ∧ n < 2 ^ k.bits

instance (k : IntKind) (n : ℤ) : Decidable (k.Spans n) :=
  inferInstanceAs (Decidable
    (if k.isSigned then -2 ^ (k.bits - 1) ≤ n ∧ n < 2 ^ (k.bits - 1) else 0 ≤ n ∧ n < 2 ^ k.bits))

theorem spans_iff_holds {k : IntKind} {n : ℤ} : k.Spans n ↔ k.Holds n := by
  cases k <;> simp only [Spans, Holds, isSigned, bits, min, max, if_true, Bool.false_eq_true, if_false] <;> omega

end IntKind

namespace Decimal

variable {x : Decimal} {n : ℤ}

theorem natAbs_signed (x : Decimal) : x.signed.natAbs = x.mantissa := by
  unfold signed
  split <;> simp

/-- A decimal without a fraction is its integral part with zeros behind it. -/
theorem signed_of_isIntegral (h : x.isIntegral = true) : x.signed = x.truncated * 10 ^ x.scale := by
  have hmantissa : (x.mantissa : ℤ) = (x.mantissa / 10 ^ x.scale : ℕ) * 10 ^ x.scale := by
    exact_mod_cast (Nat.div_mul_cancel (Nat.dvd_of_mod_eq_zero (beq_iff_eq.1 h))).symm
  unfold signed truncated
  split
  · rw [Int.neg_mul, ← hmantissa]
  · exact hmantissa

theorem toRat_of_isIntegral (h : x.isIntegral = true) : x.toRat = x.truncated := by
  rw [toRat, signed_of_isIntegral h, Int.cast_mul, Int.cast_pow, Int.cast_ofNat, mul_div_cancel_right₀]
  exact pow_ne_zero _ (by norm_num)

/-- **A decimal denotes an integer exactly when it has no fraction**, and then that integer is its integral part. -/
theorem toRat_eq_intCast_iff : x.toRat = n ↔ x.isIntegral = true ∧ x.truncated = n := by
  constructor
  · intro h
    have hscaled : x.signed = n * 10 ^ x.scale := by
      rw [toRat, div_eq_iff (pow_ne_zero _ (by norm_num))] at h
      exact_mod_cast h
    have hintegral : x.isIntegral = true := by
      have hmantissa := congrArg Int.natAbs hscaled
      rw [natAbs_signed, Int.natAbs_mul, Int.natAbs_pow] at hmantissa
      rw [isIntegral, hmantissa, beq_iff_eq]
      exact Nat.mul_mod_left _ _
    refine ⟨hintegral, ?_⟩
    rw [toRat_of_isIntegral hintegral] at h
    exact_mod_cast h
  · rintro ⟨hintegral, rfl⟩
    exact toRat_of_isIntegral hintegral

/-- An integer whose magnitude is below the limit of mantissas has a decimal. -/
theorem exists_ofInt? (h : n.natAbs < mantissaLimit) : ∃ x, ofInt? n = some x ∧ x.toRat = n := by
  have hsome : ∃ x, ofInt? n = some x := by
    unfold ofInt? ofParts? signed?
    exact ⟨_, dif_pos ⟨h, Nat.zero_le _⟩⟩
  obtain ⟨x, hx⟩ := hsome
  exact ⟨x, hx, toRat_eq_intCast_iff.2 (of_ofInt? hx)⟩

end Decimal

/-- The integers of every kind have decimals. -/
theorem Bounded.natAbs_lt {k : IntKind} (n : Bounded k) : n.toInt.natAbs < Decimal.mantissaLimit := by
  have h := n.holds
  rw [Decimal.mantissaLimit]
  cases k <;> simp only [IntKind.Holds, IntKind.min, IntKind.max] at h <;> omega

namespace Datum

variable {d r : Datum} {x : ℚ}

/-! ## Checked numbers -/

theorem ofChecked_integer_iff {k : IntKind} {n : ℤ} :
    ofChecked (.integer k) n = .ok (some r) ↔ ∃ b : Bounded k, b.toInt = n ∧ r = integer k b := by
  simp only [ofChecked]
  cases hb : Bounded.ofInt? k n with
  | some b =>
    have hn := Bounded.toInt_of_ofInt? hb
    constructor
    · intro h
      exact ⟨b, hn, (Option.some.inj (Except.ok.inj h)).symm⟩
    · rintro ⟨c, hc, rfl⟩
      rw [Bounded.eq_of_toInt (hn.trans hc.symm)]
  | none =>
    refine iff_of_false (fun h => by cases h) ?_
    rintro ⟨c, rfl, -⟩
    rw [Bounded.ofInt?_toInt] at hb
    cases hb

/-- What a datum denotes is what a conversion of numbers starts from: an integer that has a decimal, or a decimal that
may have a fraction. -/
theorem number?_of_denotes? (h : d.denotes? = some x) :
    (∃ n : ℤ, d.number? = some (.integer n) ∧ n.natAbs < Decimal.mantissaLimit ∧ x = n) ∨
      ∃ y, d = decimal y ∧ x = y.toRat := by
  cases d with
  | boolean b =>
    obtain rfl := Option.some.inj h
    exact .inl ⟨if b then 1 else 0, rfl, by cases b <;> decide, by cases b <;> simp⟩
  | integer k n =>
    obtain rfl := Option.some.inj h
    exact .inl ⟨n.toInt, rfl, n.natAbs_lt, rfl⟩
  | enumeration e n =>
    obtain rfl := Option.some.inj h
    exact .inl ⟨n.toInt, rfl, n.natAbs_lt, rfl⟩
  | decimal y =>
    obtain rfl := Option.some.inj h
    exact .inr ⟨y, rfl, rfl⟩
  | _ => cases h

/-- **An exact number is converted through the integer that it is**, if it is one. -/
theorem convertNumber_eq_ok_iff (h : d.denotes? = some x) {t : ValueType} (ht : t.isInteger = true ∨ t.isEnum = true) :
    d.convertNumber t = .ok r ↔ ∃ n : ℤ, x = n ∧ ofChecked t n = .ok (some r) := by
  rcases number?_of_denotes? h with ⟨n, hn, -, rfl⟩ | ⟨y, rfl, rfl⟩
  · rw [convertNumber_eq_ok hn, ofCheckedNumber]
    constructor
    · exact fun h => ⟨n, rfl, h⟩
    · rintro ⟨m, hm, h⟩
      rwa [Int.cast_inj.1 hm]
  · have hdecimal : ofCheckedDecimal t y =
        if y.isIntegral then ofChecked t y.truncated else .error (.notIntegral (.decimal y) t) := by
      cases t with
      | float w => rcases ht with ht | ht <;> cases ht
      | _ => rfl
    rw [convertNumber_eq_ok rfl, ofCheckedNumber, hdecimal]
    constructor
    · intro h
      split at h
      · rename_i hintegral
        exact ⟨y.truncated, Decimal.toRat_of_isIntegral hintegral, h⟩
      · cases h
    · rintro ⟨n, hn, h⟩
      obtain ⟨hintegral, rfl⟩ := Decimal.toRat_eq_intCast_iff.1 hn
      rwa [if_pos hintegral]

/-! ## Conversions -/

theorem convertTo_eq_convertNumber (h : d.denotes? = some x) {t : ValueType}
    (ht : t.isInteger = true ∨ t = .decimal ∨ t.isEnum = true ∧ d.type.isEnum = false) :
    d.convertTo t = d.convertNumber t := by
  cases d with
  | enumeration e n =>
    rcases ht with ht | rfl | ⟨-, hd⟩
    · cases t <;> first | rfl | cases ht
    · rfl
    · cases hd
  | boolean | integer | decimal =>
    rcases ht with ht | rfl | ⟨ht, -⟩
    · cases t <;> first | rfl | cases ht
    · rfl
    · cases t <;> first | rfl | cases ht
  | _ => cases h

/-- **An exact number becomes one of an integer type exactly if the type has it.** -/
theorem convert_integer_iff (h : d.denotes? = some x) {k : IntKind} :
    d.convert (.integer k) = .ok r ↔ ∃ b : Bounded k, x = b.toInt ∧ r = integer k b := by
  by_cases hsame : d.type = .integer k
  · rw [convert, if_pos hsame]
    cases d with
    | integer j n =>
      obtain rfl := ValueType.integer.inj hsame
      obtain rfl := Option.some.inj h
      constructor
      · intro hr
        exact ⟨n, rfl, (Except.ok.inj hr).symm⟩
      · rintro ⟨b, hb, rfl⟩
        rw [Bounded.eq_of_toInt (Int.cast_inj.1 hb)]
    | _ => cases hsame
  · rw [convert, if_neg hsame, convertTo_eq_convertNumber h (.inl rfl), convertNumber_eq_ok_iff h (.inl rfl)]
    constructor
    · rintro ⟨n, hn, hr⟩
      obtain ⟨b, rfl, rfl⟩ := ofChecked_integer_iff.1 hr
      exact ⟨b, hn, rfl⟩
    · rintro ⟨b, hb, rfl⟩
      exact ⟨b.toInt, hb, ofChecked_integer_iff.2 ⟨b, rfl, rfl⟩⟩

/-- **An exact number that is no discriminant becomes one exactly if a variant has it.** -/
theorem convert_enumeration_iff (h : d.denotes? = some x) (hd : d.type.isEnum = false) {e : EnumDef} :
    d.convert (.enumeration e) = .ok r ↔
      ∃ v ∈ e.variants, x = v.discriminant.toInt ∧ r = enumeration e v.discriminant := by
  have hne : d.type ≠ .enumeration e := by
    intro heq
    rw [heq] at hd
    cases hd
  rw [convert, if_neg hne, convertTo_eq_convertNumber h (.inr (.inr ⟨rfl, hd⟩)), convertNumber_eq_ok_iff h (.inr rfl)]
  constructor
  · rintro ⟨n, hn, hr⟩
    obtain ⟨v, hv, rfl, rfl⟩ := ofChecked_enumeration_iff.1 hr
    exact ⟨v, hv, hn, rfl⟩
  · rintro ⟨v, hv, hn, rfl⟩
    exact ⟨v.discriminant.toInt, hn, ofChecked_enumeration_iff.2 ⟨v, hv, rfl, rfl⟩⟩

/-- **Every exact number becomes a decimal.** -/
theorem exists_convert_decimal (h : d.denotes? = some x) :
    ∃ y : Decimal, d.convert .decimal = .ok (decimal y) ∧ y.toRat = x := by
  rcases number?_of_denotes? h with ⟨n, hn, hlimit, rfl⟩ | ⟨y, rfl, rfl⟩
  · have hne : d.type ≠ .decimal := by
      cases d with
      | decimal y => cases hn
      | _ => exact fun heq => by cases heq
    obtain ⟨y, hy, hyn⟩ := Decimal.exists_ofInt? hlimit
    refine ⟨y, ?_, hyn⟩
    rw [convert, if_neg hne, convertTo_eq_convertNumber h (.inr (.inl rfl))]
    simp only [convertNumber, hn, ofCheckedNumber, ofChecked, hy]
  · exact ⟨y, if_pos rfl, rfl⟩

end Datum

namespace Value

/-- **Conversions between exact numbers are exact or fail.**  An integer type takes the integers that it spans, an
enumeration the discriminants of its variants, decimals take everything, and the result denotes the number that was
converted. -/
theorem convert_exact (d : Datum) (x : ℚ) (hx : d.denotes? = some x) :
    (∀ k, (∃ w, (datum d).convert (.integer k) = .ok w) ↔ ∃ n : ℤ, x = n ∧ k.Spans n) ∧
    (∃ w, (datum d).convert .decimal = .ok w) ∧
    (d.type.isEnum = false → ∀ e : EnumDef, (∃ w, (datum d).convert (.enumeration e) = .ok w) ↔
      ∃ v ∈ e.variants, x = v.discriminant.toInt) ∧
    ∀ t w, t.isInteger = true ∨ t = .decimal ∨ t.isEnum = true ∧ d.type.isEnum = false →
      (datum d).convert t = .ok w → ∃ r, w = datum r ∧ r.type = t ∧ r.denotes? = some x := by
  obtain ⟨y, hy, hyx⟩ := Datum.exists_convert_decimal hx
  refine ⟨fun k => ?_, ⟨_, convert_datum_eq_ok.2 ⟨_, hy, rfl⟩⟩, fun hd e => ?_, fun t w ht hw => ?_⟩
  · constructor
    · rintro ⟨w, hw⟩
      obtain ⟨r, hr, -⟩ := convert_datum_eq_ok.1 hw
      obtain ⟨b, hb, -⟩ := (Datum.convert_integer_iff hx).1 hr
      exact ⟨b.toInt, hb, IntKind.spans_iff_holds.2 b.holds⟩
    · rintro ⟨n, hn, hspans⟩
      have hr := (Datum.convert_integer_iff hx).2 ⟨⟨n, IntKind.spans_iff_holds.1 hspans⟩, hn, rfl⟩
      exact ⟨_, convert_datum_eq_ok.2 ⟨_, hr, rfl⟩⟩
  · constructor
    · rintro ⟨w, hw⟩
      obtain ⟨r, hr, -⟩ := convert_datum_eq_ok.1 hw
      obtain ⟨v, hv, hxv, -⟩ := (Datum.convert_enumeration_iff hx hd).1 hr
      exact ⟨v, hv, hxv⟩
    · rintro ⟨v, hv, hxv⟩
      exact ⟨_, convert_datum_eq_ok.2 ⟨_, (Datum.convert_enumeration_iff hx hd).2 ⟨v, hv, hxv, rfl⟩, rfl⟩⟩
  · obtain ⟨r, hr, rfl⟩ := convert_datum_eq_ok.1 hw
    refine ⟨r, rfl, Option.some.inj (convert_type? hw), ?_⟩
    rcases ht with ht | rfl | ⟨ht, hd⟩
    · cases t with
      | integer k =>
        obtain ⟨b, rfl, rfl⟩ := (Datum.convert_integer_iff hx).1 hr
        rfl
      | _ => cases ht
    · obtain rfl : Datum.decimal y = r := Except.ok.inj (hy.symm.trans hr)
      exact congrArg some hyx
    · cases t with
      | enumeration e =>
        obtain ⟨v, -, rfl, rfl⟩ := (Datum.convert_enumeration_iff hx hd).1 hr
        rfl
      | _ => cases ht

/-- The largest number of a byte, written with two zeros behind the point. -/
def fullByte : Datum := .decimal ⟨false, 25500, 2, by decide, by decide⟩

/-- A decimal is judged by the number that it denotes and not by its digits: `255.00` is the last one of eight bits
without a sign, and beyond the last one of eight bits with a sign. -/
theorem convert_exact_fullByte : fullByte.denotes? = some 255 ∧
    (∃ w, (datum fullByte).convert (.integer .uint8) = .ok w) ∧
    ¬ ∃ w, (datum fullByte).convert (.integer .int8) = .ok w := by
  have hx : fullByte.denotes? = some 255 := by
    have hrat : Decimal.toRat ⟨false, 25500, 2, by decide, by decide⟩ = ((255 : ℤ) : ℚ) :=
      Decimal.toRat_eq_intCast_iff.2 (by decide)
    exact congrArg some hrat
  obtain ⟨hinteger, -⟩ := convert_exact fullByte 255 hx
  refine ⟨hx, (hinteger .uint8).2 ⟨255, rfl, by decide⟩, fun h => ?_⟩
  obtain ⟨n, hn, hspans⟩ := (hinteger .int8).1 h
  obtain rfl : (255 : ℤ) = n := by exact_mod_cast hn
  exact absurd hspans (by decide)

end Value

end RowBinding
