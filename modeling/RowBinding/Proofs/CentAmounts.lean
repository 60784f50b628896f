import Mathlib.Tactic.FieldSimp
import RowBinding.Proofs.Truncation
import RowBinding.Sample.Cents
/-!
# Amounts that are stored as cents

The product of an amount with a hundred may need more bits than a mantissa has.  It then gives up digits after the
point, but only zeros, so that it is exact wherever it exists (`Decimal.toRat_hundredfold?`), and it exists wherever a
decimal is that large (`Decimal.exists_hundredfold?_iff`).  **Every number of cents is an amount of scale two and comes
back from it, and an amount whose cents fit loses what is smaller than a cent and nothing else** (`Sample.cents_exact`).
-/
namespace RowBinding

/-- The number without what stands behind that many digits after its point. -/
def cutAfter (digits : ℕ) (x : ℚ) : ℚ := towardZero (x * 10 ^ digits) / 10 ^ digits

theorem abs_sub_towardZero_lt_one (x : ℚ) : |x - towardZero x| < 1 := by
  unfold towardZero
  split
  · rw [abs_of_nonneg (sub_nonneg.2 (Int.floor_le x))]
    linarith [Int.lt_floor_add_one x]
  · rw [abs_of_nonpos (sub_nonpos.2 (Int.le_ceil x))]
    linarith [Int.ceil_lt_add_one x]

theorem abs_lt_natAbs_towardZero_add_one (x : ℚ) : |x| < (towardZero x).natAbs + 1 := by
  have hsub := abs_sub_abs_le_abs_sub x (towardZero x)
  have hone := abs_sub_towardZero_lt_one x
  rw [Nat.cast_natAbs, Int.cast_abs]
  linarith

namespace Decimal

variable {x y : Decimal} {negative : Bool} {m s : ℕ}

/-- The number with that sign and magnitude. -/
def withSign (negative : Bool) (x : ℚ) : ℚ := if negative then -x else x

theorem abs_withSign (negative : Bool) (x : ℚ) : |withSign negative x| = |x| := by
  unfold withSign
  split
  · exact abs_neg x
  · rfl

theorem mul_withSign (negative : Bool) (x y : ℚ) : x * withSign negative y = withSign negative (x * y) := by
  unfold withSign
  split
  · exact mul_neg x y
  · rfl

theorem withSign_natAbs_div (n : ℤ) (d : ℚ) : withSign (n < 0) (n.natAbs / d) = n / d := by
  rw [withSign, Nat.cast_natAbs, Int.cast_abs]
  simp only [decide_eq_true_eq]
  split
  · rename_i h
    rw [abs_of_neg (Int.cast_lt_zero.2 h), neg_div, neg_neg]
  · rename_i h
    rw [abs_of_nonneg (Int.cast_nonneg (not_lt.1 h))]

theorem toRat_eq (x : Decimal) : x.toRat = withSign x.negative (x.mantissa / 10 ^ x.scale) := by
  unfold toRat signed withSign
  split
  · rw [Int.cast_neg, Int.cast_natCast, neg_div]
  · rw [Int.cast_natCast]

theorem abs_toRat (x : Decimal) : |x.toRat| = x.mantissa / 10 ^ x.scale := by
  rw [toRat_eq, abs_withSign, abs_of_nonneg (by positivity)]

/-- The magnitudes of decimals are below the limit of mantissas. -/
theorem abs_toRat_lt (x : Decimal) : |x.toRat| < mantissaLimit := by
  have hmantissa : (x.mantissa : ℚ) < mantissaLimit := by exact_mod_cast x.mantissa_lt
  have hpow : (1 : ℚ) ≤ 10 ^ x.scale := one_le_pow₀ (by norm_num)
  rw [abs_toRat]
  exact (div_le_self (Nat.cast_nonneg _) hpow).trans_lt hmantissa

/-- Parts in range make a decimal of that scale; that a zero loses its sign does not change the number. -/
theorem ofParts?_eq_some_iff : ofParts? negative m s = some y ↔
    m < mantissaLimit ∧ s ≤ maxScale ∧
      y.negative = (negative && m != 0) ∧ y.mantissa = m ∧ y.scale = s := by
  unfold ofParts? signed?
  split
  · rename_i h
    constructor
    · intro hy
      obtain rfl := Option.some.inj hy
      exact ⟨h.1, h.2, rfl, rfl, rfl⟩
    · rintro ⟨-, -, hn, rfl, rfl⟩
      rw [← hn]
  · rename_i h
    exact iff_of_false (fun hy => by cases hy) (fun hy => h ⟨hy.1, hy.2.1⟩)

theorem toRat_of_ofParts? (h : ofParts? negative m s = some y) : y.toRat = withSign negative (m / 10 ^ s) := by
  obtain ⟨-, -, hn, rfl, rfl⟩ := ofParts?_eq_some_iff.1 h
  rw [toRat_eq, hn]
  by_cases hzero : y.mantissa = 0
  · simp [withSign, hzero]
  · rw [bne_iff_ne.2 hzero, Bool.and_true]

theorem exists_ofParts? (negative : Bool) (hm : m < mantissaLimit) (hs : s ≤ maxScale) :
    ∃ y, ofParts? negative m s = some y :=
  ⟨_, dif_pos ⟨hm, hs⟩⟩

/-- **The hundredfold is exact**: the digits that it gives up are zeros. -/
theorem toRat_hundredfold? (h : x.hundredfold? = some y) : y.toRat = 100 * x.toRat := by
  rw [toRat_eq x, mul_withSign]
  unfold hundredfold? at h
  split at h
  · rw [toRat_of_ofParts? h]
    push_cast
    ring_nf
  · split at h
    · rename_i hs
      obtain ⟨s, hscale⟩ := Nat.exists_eq_add_of_le' hs.1
      rw [toRat_of_ofParts? h, hscale, Nat.add_sub_cancel, pow_succ]
      push_cast
      congr 1
      field_simp
      norm_num
    · split at h
      · rename_i hs
        obtain ⟨s, hscale⟩ := Nat.exists_eq_add_of_le' hs
        rw [toRat_of_ofParts? h, hscale, Nat.add_sub_cancel, pow_add]
        congr 1
        field_simp
        norm_num
      · cases h

/-- **The hundredfold exists unless it is too large for a decimal.** -/
theorem exists_hundredfold?_iff : (∃ y, x.hundredfold? = some y) ↔ |100 * x.toRat| < mantissaLimit := by
  constructor
  · rintro ⟨y, hy⟩
    rw [← toRat_hundredfold? hy]
    exact y.abs_toRat_lt
  · intro hlt
    rw [abs_mul, abs_toRat, abs_of_pos (by norm_num : (0 : ℚ) < 100)] at hlt
    unfold hundredfold?
    split
    · rename_i hm
      exact exists_ofParts? _ hm x.scale_le
    · rename_i hm
      split
      · rename_i hs
        exact exists_ofParts? _ hs.2 ((Nat.sub_le _ _).trans x.scale_le)
      · rename_i hs
        split
        · exact exists_ofParts? _ x.mantissa_lt ((Nat.sub_le _ _).trans x.scale_le)
        · -- With less than two digits after the point the product is an integer.
          have hscale : x.scale = 0 ∨ x.scale = 1 := by omega
          exfalso
          rcases hscale with hscale | hscale
          · rw [hscale, pow_zero, div_one, mul_comm] at hlt
            exact hm (by exact_mod_cast hlt)
          · rw [hscale, pow_one, mul_div_left_comm] at hlt
            norm_num at hlt
            exact hs ⟨hscale.ge, by exact_mod_cast hlt⟩

end Decimal

namespace Sample

/-- Cents are an amount of scale two. -/
theorem exists_amountOfCents (c : Bounded .int64) :
    ∃ x : Decimal, amountOfCents c = .ok (.datum (.decimal x)) ∧ x.scale = 2 ∧ x.toRat = c.toInt / 100 := by
  obtain ⟨x, hx⟩ := Decimal.exists_ofParts? (c.toInt < 0) c.natAbs_lt (by decide : centScale ≤ Decimal.maxScale)
  obtain ⟨-, -, -, -, hscale⟩ := Decimal.ofParts?_eq_some_iff.1 hx
  refine ⟨x, by rw [amountOfCents, hx], hscale, ?_⟩
  rw [Decimal.toRat_of_ofParts? hx, Decimal.withSign_natAbs_div, centScale]
  norm_num

/-- **The cents of an amount are its hundredfold without its fraction**, and there are none if the type of cents does
not have that number. -/
theorem centsOfAmount_eq_ok_iff {a : Decimal} {c : Bounded .int64} :
    centsOfAmount a = .ok (.integer c) ↔ c.toInt = towardZero (100 * a.toRat) := by
  constructor
  · intro h
    unfold centsOfAmount at h
    split at h
    · cases h
    · rename_i x hx
      split at h
      · rename_i b hb
        obtain rfl : b = c := by
          injection h with h
          injection h with h
          injection h
        rw [Bounded.toInt_of_ofInt? hb, Decimal.truncated_eq, Decimal.toRat_hundredfold? hx]
      · cases h
  · intro h
    have hlt : |100 * a.toRat| < Decimal.mantissaLimit := by
      have hc : c.toInt.natAbs + 1 ≤ Decimal.mantissaLimit := c.natAbs_lt
      rw [h] at hc
      exact (abs_lt_natAbs_towardZero_add_one _).trans_le (by exact_mod_cast hc)
    obtain ⟨x, hx⟩ := Decimal.exists_hundredfold?_iff.2 hlt
    have htruncated : x.truncated = c.toInt := by
      rw [Decimal.truncated_eq, Decimal.toRat_hundredfold? hx, h]
    rw [centsOfAmount, hx]
    simp only [htruncated, Bounded.ofInt?_toInt]

/-- An amount whose cents do not fit is refused, and one of which there is no decimal of the hundredfold ends the
computation. -/
theorem centsOfAmount_eq_error {a : Decimal} (h : ¬ IntKind.int64.Spans (towardZero (100 * a.toRat))) :
    centsOfAmount a =
      .error (if |100 * a.toRat| < Decimal.mantissaLimit then .amountOutOfRange else .abort) := by
  unfold centsOfAmount
  split
  · rename_i hx
    rw [if_neg]
    rw [← Decimal.exists_hundredfold?_iff, hx]
    rintro ⟨y, hy⟩
    cases hy
  · rename_i x hx
    rw [if_pos (Decimal.exists_hundredfold?_iff.1 ⟨x, hx⟩)]
    split
    · rename_i b hb
      refine absurd ?_ h
      rw [← Decimal.toRat_hundredfold? hx, ← Decimal.truncated_eq, ← Bounded.toInt_of_ofInt? hb]
      exact IntKind.spans_iff_holds.2 b.holds
    · rfl

/-- **Amounts are kept to the cent.**  Every number of cents is read as an amount of scale two that is a hundredth of
it, and written back unchanged; an amount whose hundredfold without its fraction fits is written as that number of
cents, and read back without what is smaller than a cent; and NULLs stay NULLs of the other type. -/
theorem cents_exact :
    (∀ c : Bounded .int64, ∃ x : Decimal, cents.get (.integer c) = .ok (.datum (.decimal x)) ∧
      x.scale = 2 ∧ x.toRat = c.toInt / 100 ∧ cents.set (.datum (.decimal x)) = .ok (.integer c)) ∧
    (∀ a : Decimal, IntKind.int64.Spans (towardZero (100 * a.toRat)) →
      ∃ (c : Bounded .int64) (x : Decimal), c.toInt = towardZero (100 * a.toRat) ∧
        cents.set (.datum (.decimal a)) = .ok (.integer c) ∧ cents.get (.integer c) = .ok (.datum (.decimal x)) ∧
        x.scale = 2 ∧ x.toRat = cutAfter 2 a.toRat) ∧
    cents.get (.null (.integer .int64)) = .ok (.null .decimal) ∧
    cents.set (.null .decimal) = .ok (.null (.integer .int64)) := by
  refine ⟨fun c => ?_, fun a hspans => ?_, rfl, rfl⟩
  · obtain ⟨x, hget, hscale, hx⟩ := exists_amountOfCents c
    refine ⟨x, hget, hscale, hx, centsOfAmount_eq_ok_iff.2 ?_⟩
    rw [hx, mul_div_cancel₀ _ (by norm_num), towardZero_intCast]
  · let c : Bounded .int64 := ⟨towardZero (100 * a.toRat), IntKind.spans_iff_holds.1 hspans⟩
    have hc : c.toInt = towardZero (100 * a.toRat) := rfl
    obtain ⟨x, hget, hscale, hx⟩ := exists_amountOfCents c
    refine ⟨c, x, hc, centsOfAmount_eq_ok_iff.2 hc, hget, hscale, ?_⟩
    rw [hx, hc, cutAfter, mul_comm a.toRat]
    norm_num

/-- The amount -7.9228162514264337593543950335, whose hundredfold gives two digits back. -/
def longDebt : Decimal := ⟨true, 2 ^ 96 - 1, 28, by decide, by decide⟩

theorem towardZero_longDebt : towardZero (100 * longDebt.toRat) = -792 := by
  have hproduct : longDebt.hundredfold? = some ⟨true, 2 ^ 96 - 1, 26, by decide, by decide⟩ := by decide
  rw [← Decimal.toRat_hundredfold? hproduct, ← Decimal.truncated_eq]
  decide

theorem cents_exact_longDebt : IntKind.int64.Spans (towardZero (100 * longDebt.toRat)) ∧
    ∃ (c : Bounded .int64) (x : Decimal), c.toInt = -792 ∧
      cents.set (.datum (.decimal longDebt)) = .ok (.integer c) ∧ cents.get (.integer c) = .ok (.datum (.decimal x)) ∧
      x.scale = 2 ∧ x.toRat = cutAfter 2 longDebt.toRat := by
  have hspans : IntKind.int64.Spans (towardZero (100 * longDebt.toRat)) := by
    rw [towardZero_longDebt]
    decide
  obtain ⟨c, x, hc, hset, hget, hscale, hx⟩ := cents_exact.2.1 longDebt hspans
  exact ⟨hspans, c, x, hc.trans towardZero_longDebt, hset, hget, hscale, hx⟩

end Sample

end RowBinding
