import Mathlib.Algebra.Order.Field.Power
import Mathlib.Tactic.Linarith
import RowBinding.Proofs.Truncation
/-!
# Rounding to a float

A quotient is rounded on the grid of the multiples of one unit, a power of two that is chosen so that the significand
fills its bits.  **No float is nearer to the quotient than the one it is rounded to** (`FloatWidth.rounded_nearest`), so
a quotient that is a float is rounded to itself (`Binary.ofRatio_of_onGrid`): a number passes unchanged into its own width
and into the larger one (`Binary.toWidth_self`, `Binary.toRat?_toDouble`).
-/
namespace RowBinding

/-! ## Powers of two -/

theorem two_zpow_add_one (e : ℤ) : (2 : ℚ) ^ (e + 1) = 2 * 2 ^ e := by
  rw [zpow_add_one₀ (by norm_num), mul_comm]

theorem two_zpow_le_iff {num den : ℕ} (hden : 0 < den) (e : ℤ) :
    (2 : ℚ) ^ e ≤ num / den ↔ den * 2 ^ e.toNat ≤ num * 2 ^ (-e).toNat := by
  have hden' : (0 : ℚ) < den := by exact_mod_cast hden
  have hpow : (0 : ℚ) < 2 ^ (-e).toNat := by positivity
  rw [two_zpow_eq_div, div_le_div_iff₀ hpow hden', mul_comm]
  exact_mod_cast Iff.rfl

/-- The binary logarithm of a quotient is the exponent of the power of two below it. -/
theorem floorLog2_spec {num den : ℕ} (hnum : 0 < num) (hden : 0 < den) :
    (2 : ℚ) ^ floorLog2 num den ≤ num / den ∧ (num : ℚ) / den < 2 ^ (floorLog2 num den + 1) := by
  have hden' : (0 : ℚ) < den := by exact_mod_cast hden
  have hnumLow : (2 : ℚ) ^ (num.log2 : ℤ) ≤ num := by
    rw [zpow_natCast]
    exact_mod_cast Nat.log2_self_le hnum.ne'
  have hnumHigh : (num : ℚ) < 2 ^ ((num.log2 : ℤ) + 1) := by
    exact_mod_cast Nat.lt_log2_self (n := num)
  have hdenLow : (2 : ℚ) ^ (den.log2 : ℤ) ≤ den := by
    rw [zpow_natCast]
    exact_mod_cast Nat.log2_self_le hden.ne'
  have hdenHigh : (den : ℚ) < 2 ^ ((den.log2 : ℤ) + 1) := by
    exact_mod_cast Nat.lt_log2_self (n := den)
  have hbelow : (2 : ℚ) ^ ((num.log2 : ℤ) - den.log2 - 1) ≤ num / den := by
    rw [le_div_iff₀ hden']
    calc (2 : ℚ) ^ ((num.log2 : ℤ) - den.log2 - 1) * den
        ≤ 2 ^ ((num.log2 : ℤ) - den.log2 - 1) * 2 ^ ((den.log2 : ℤ) + 1) := by gcongr
      _ = 2 ^ (num.log2 : ℤ) := by rw [← zpow_add₀ (by norm_num)]; congr 1; omega
      _ ≤ num := hnumLow
  have habove : (num : ℚ) / den < 2 ^ ((num.log2 : ℤ) - den.log2 + 1) := by
    rw [div_lt_iff₀ hden']
    calc (num : ℚ) < 2 ^ ((num.log2 : ℤ) + 1) := hnumHigh
      _ = 2 ^ ((num.log2 : ℤ) - den.log2 + 1) * 2 ^ (den.log2 : ℤ) := by
        rw [← zpow_add₀ (by norm_num)]; congr 1; omega
      _ ≤ 2 ^ ((num.log2 : ℤ) - den.log2 + 1) * den := by gcongr
  unfold floorLog2
  dsimp only
  split
  · rename_i h
    exact ⟨(two_zpow_le_iff hden _).2 h, habove⟩
  · rename_i h
    refine ⟨hbelow, ?_⟩
    rw [Int.sub_add_cancel]
    exact lt_of_not_ge fun hle => h ((two_zpow_le_iff hden _).1 hle)

/-! ## The nearest natural number -/

theorem roundHalfEven_cases (num den : ℕ) :
    (roundHalfEven num den = num / den ∧ 2 * (num % den) ≤ den) ∨
      (roundHalfEven num den = num / den + 1 ∧ den ≤ 2 * (num % den)) := by
  unfold roundHalfEven
  dsimp only
  split
  · exact .inl ⟨rfl, by omega⟩
  · split
    · exact .inr ⟨rfl, by omega⟩
    · rcases Nat.mod_two_eq_zero_or_one (num / den) with h | h
      · exact .inl ⟨by rw [h, Nat.add_zero], by omega⟩
      · exact .inr ⟨by rw [h], by omega⟩

theorem roundHalfEven_le (num den : ℕ) : roundHalfEven num den ≤ num / den + 1 := by
  rcases roundHalfEven_cases num den with ⟨h, -⟩ | ⟨h, -⟩ <;> omega

theorem le_roundHalfEven (num den : ℕ) : num / den ≤ roundHalfEven num den := by
  rcases roundHalfEven_cases num den with ⟨h, -⟩ | ⟨h, -⟩ <;> omega

/-- **No integer is nearer to a quotient than the one it is rounded to.** -/
theorem roundHalfEven_nearest (num : ℕ) {den : ℕ} (hden : 0 < den) (k : ℤ) :
    |(roundHalfEven num den : ℚ) - num / den| ≤ |(k : ℚ) - num / den| := by
  have hden' : (0 : ℚ) < den := by exact_mod_cast hden
  -- the quotient lies between two neighbouring integers, at a distance from the lower one that the remainder gives
  obtain ⟨r, hr, hx⟩ : ∃ r : ℚ, r * den = (num % den : ℕ) ∧ (num : ℚ) / den = (num / den : ℕ) + r := by
    refine ⟨(num % den : ℕ) / den, div_mul_cancel₀ _ hden'.ne', ?_⟩
    rw [div_eq_iff hden'.ne', add_mul, div_mul_cancel₀ _ hden'.ne']
    exact_mod_cast (Nat.div_add_mod' num den).symm
  have hnonneg : 0 ≤ r := by
    have h : 0 ≤ r * den := by rw [hr]; positivity
    exact nonneg_of_mul_nonneg_left h hden'
  have hlt : r < 1 := by
    have h : r * den < 1 * den := by
      rw [hr, one_mul]
      exact_mod_cast Nat.mod_lt num hden
    exact lt_of_mul_lt_mul_right h hden'.le
  have hrounded := roundHalfEven_cases num den
  generalize num / den = f at hx hrounded
  have hside : (k : ℚ) ≤ f ∨ (f : ℚ) + 1 ≤ k := by
    rcases le_or_gt k f with h | h
    · exact .inl (by exact_mod_cast h)
    · exact .inr (by exact_mod_cast h)
  have hk : min r (1 - r) ≤ |(k : ℚ) - num / den| := by
    rw [hx]
    rcases hside with h | h
    · exact (min_le_left _ _).trans (le_abs.2 (.inr (by linarith)))
    · exact (min_le_right _ _).trans (le_abs.2 (.inl (by linarith)))
  refine le_trans ?_ hk
  rcases hrounded with ⟨hm, hhalf⟩ | ⟨hm, hhalf⟩
  · have hr2 : 2 * r ≤ 1 := by
      have h : 2 * r * den ≤ 1 * den := by
        rw [mul_assoc, hr, one_mul]
        exact_mod_cast hhalf
      exact le_of_mul_le_mul_right h hden'
    rw [hm, hx, sub_add_cancel_left, abs_neg, abs_of_nonneg hnonneg]
    exact le_min le_rfl (by linarith)
  · have hr2 : 1 ≤ 2 * r := by
      have h : 1 * den ≤ 2 * r * den := by
        rw [mul_assoc, hr, one_mul]
        exact_mod_cast hhalf
      exact le_of_mul_le_mul_right h hden'
    have hdistance : ((f + 1 : ℕ) : ℚ) - (f + r) = 1 - r := by push_cast; ring
    rw [hm, hx, hdistance, abs_of_nonneg (by linarith)]
    exact le_min (by linarith) le_rfl

/-! ## The grid -/

namespace FloatWidth

/-- The exponent of the unit of which a quotient becomes a multiple. -/
def unitExponent (w : FloatWidth) (num den : ℕ) : ℤ := max w.minExponent (floorLog2 num den - (w.precision - 1))

/-- How many units a quotient is rounded to. -/
def units (w : FloatWidth) (num den : ℕ) : ℕ :=
  roundHalfEven (num * 2 ^ (-w.unitExponent num den).toNat) (den * 2 ^ (w.unitExponent num den).toNat)

/-- The number that a quotient is rounded to. -/
def rounded (w : FloatWidth) (num den : ℕ) : ℚ := w.units num den * 2 ^ w.unitExponent num den

theorem precision_pos (w : FloatWidth) : 0 < w.precision := by cases w <;> decide

theorem cast_precision_sub_one (w : FloatWidth) : ((w.precision : ℤ) - 1) = (w.precision - 1 : ℕ) := by
  have := w.precision_pos
  omega

theorem minExponent_le_max (w : FloatWidth) : w.minExponent ≤ w.maxExponent := by cases w <;> decide

variable {w : FloatWidth} {num den : ℕ}

theorem minExponent_le_unit (w : FloatWidth) (num den : ℕ) : w.minExponent ≤ w.unitExponent num den := le_max_left _ _

theorem lt_unit (hnum : 0 < num) (hden : 0 < den) :
    (num : ℚ) / den < 2 ^ (w.precision + w.unitExponent num den : ℤ) := by
  refine (floorLog2_spec hnum hden).2.trans_le (zpow_le_zpow_right₀ (by norm_num) ?_)
  have h : floorLog2 num den - (w.precision - 1) ≤ w.unitExponent num den := le_max_right _ _
  omega

/-- Unless the unit is the smallest one, the significand fills its bits. -/
theorem unit_le (hnum : 0 < num) (hden : 0 < den) : w.unitExponent num den = w.minExponent ∨
    (2 : ℚ) ^ (w.precision - 1 + w.unitExponent num den : ℤ) ≤ num / den := by
  rcases max_choice w.minExponent (floorLog2 num den - (w.precision - 1)) with h | h
  · exact .inl h
  · refine .inr (le_trans (zpow_le_zpow_right₀ (by norm_num) ?_) (floorLog2_spec hnum hden).1)
    rw [unitExponent, h]
    omega

theorem units_den_pos (w : FloatWidth) (num : ℕ) (hden : 0 < den) : 0 < den * 2 ^ (w.unitExponent num den).toNat :=
  Nat.mul_pos hden (Nat.two_pow_pos _)

theorem units_quotient (w : FloatWidth) (num den : ℕ) :
    ((num * 2 ^ (-w.unitExponent num den).toNat : ℕ) : ℚ) / (den * 2 ^ (w.unitExponent num den).toNat : ℕ) =
      num / den / 2 ^ w.unitExponent num den := by
  rw [two_zpow_eq_div]
  push_cast
  rw [div_div_div_eq]

theorem units_le (hnum : 0 < num) (hden : 0 < den) : w.units num den ≤ 2 ^ w.precision := by
  have hpos := units_den_pos w num hden
  have hquotient : num * 2 ^ (-w.unitExponent num den).toNat / (den * 2 ^ (w.unitExponent num den).toNat) <
      2 ^ w.precision := by
    rw [Nat.div_lt_iff_lt_mul hpos]
    have h := lt_unit (w := w) hnum hden
    rw [zpow_add₀ (by norm_num), ← div_lt_iff₀ (by positivity), ← units_quotient,
      div_lt_iff₀ (by exact_mod_cast hpos)] at h
    exact_mod_cast h
  exact (roundHalfEven_le _ _).trans hquotient

theorem le_units (hden : 0 < den)
    (h : (2 : ℚ) ^ (w.precision - 1 + w.unitExponent num den : ℤ) ≤ num / den) :
    2 ^ (w.precision - 1) ≤ w.units num den := by
  have hpos := units_den_pos w num hden
  have hquotient : 2 ^ (w.precision - 1) ≤
      num * 2 ^ (-w.unitExponent num den).toNat / (den * 2 ^ (w.unitExponent num den).toNat) := by
    rw [Nat.le_div_iff_mul_le hpos]
    rw [zpow_add₀ (by norm_num), ← le_div_iff₀ (by positivity), ← units_quotient,
      le_div_iff₀ (by exact_mod_cast hpos), cast_precision_sub_one] at h
    exact_mod_cast h
  exact hquotient.trans (le_roundHalfEven _ _)

/-- No multiple of the unit is nearer to the quotient. -/
theorem rounded_nearest_unit (w : FloatWidth) (num : ℕ) (hden : 0 < den) (k : ℤ) :
    |w.rounded num den - num / den| ≤ |k * 2 ^ w.unitExponent num den - (num : ℚ) / den| := by
  have hunit : (0 : ℚ) < 2 ^ w.unitExponent num den := by positivity
  have hscaled : ∀ y : ℚ, y * 2 ^ w.unitExponent num den - num / den =
      (y - num / den / 2 ^ w.unitExponent num den) * 2 ^ w.unitExponent num den := by
    intro y
    rw [sub_mul, div_mul_cancel₀ _ hunit.ne']
  have h := roundHalfEven_nearest (num * 2 ^ (-w.unitExponent num den).toNat) (units_den_pos w num hden) k
  rw [units_quotient] at h
  rw [rounded, hscaled, hscaled, abs_mul, abs_mul]
  exact mul_le_mul_of_nonneg_right h (abs_nonneg _)

/-- **No number with a significand of the width is nearer to a quotient than the one it is rounded to.** -/
theorem rounded_nearest (hnum : 0 < num) (hden : 0 < den) {m : ℕ} {q : ℤ} (hm : m < 2 ^ w.precision)
    (hq : w.minExponent ≤ q) : |w.rounded num den - num / den| ≤ |m * 2 ^ q - (num : ℚ) / den| := by
  rcases le_or_gt (w.unitExponent num den) q with hle | hlt
  · have hmultiple : (m : ℚ) * 2 ^ q =
        (m * 2 ^ (q - w.unitExponent num den).toNat : ℤ) * 2 ^ w.unitExponent num den := by
      have hpow : (2 : ℚ) ^ q = 2 ^ (q - w.unitExponent num den).toNat * 2 ^ w.unitExponent num den := by
        rw [← zpow_natCast, ← zpow_add₀ (by norm_num)]
        congr 1
        omega
      rw [hpow]
      push_cast
      ring
    rw [hmultiple]
    exact rounded_nearest_unit w num hden _
  · -- a smaller unit: such a number is below the first of the quotient's binade, which is on the grid
    have hbinade := (unit_le (w := w) hnum hden).resolve_left (by omega)
    have hbelow : (m : ℚ) * 2 ^ q ≤ 2 ^ (w.precision - 1 + w.unitExponent num den : ℤ) := by
      calc (m : ℚ) * 2 ^ q ≤ 2 ^ (w.precision : ℤ) * 2 ^ q := by
            gcongr
            exact_mod_cast hm.le
        _ = 2 ^ (w.precision + q : ℤ) := by rw [← zpow_add₀ (by norm_num)]
        _ ≤ 2 ^ (w.precision - 1 + w.unitExponent num den : ℤ) :=
            zpow_le_zpow_right₀ (by norm_num) (by omega)
    have hfirst : (2 : ℚ) ^ (w.precision - 1 + w.unitExponent num den : ℤ) =
        (2 ^ (w.precision - 1) : ℤ) * 2 ^ w.unitExponent num den := by
      rw [zpow_add₀ (by norm_num), cast_precision_sub_one, zpow_natCast]
      push_cast
      rfl
    have hnearest := rounded_nearest_unit w num hden (2 ^ (w.precision - 1))
    rw [← hfirst] at hnearest
    refine hnearest.trans ?_
    rw [abs_of_nonpos (by linarith), abs_of_nonpos (by linarith)]
    linarith

end FloatWidth

/-! ## Floats -/

namespace FloatWidth

variable {w : FloatWidth}

theorem Canonical.lt {m : ℕ} {q : ℤ} (h : w.Canonical m q) : (m : ℚ) * 2 ^ q < 2 ^ (w.precision + q : ℤ) := by
  rw [zpow_add₀ (by norm_num)]
  gcongr
  exact_mod_cast h.1

/-- Unless the exponent is the smallest one, the significand fills its bits. -/
theorem Canonical.le {m : ℕ} {q : ℤ} (h : w.Canonical m q) :
    q = w.minExponent ∨ (2 : ℚ) ^ (w.precision - 1 + q : ℤ) ≤ m * 2 ^ q := by
  by_cases hm : m < 2 ^ (w.precision - 1)
  · exact .inl (h.2.2.2 hm)
  · right
    rw [zpow_add₀ (by norm_num), cast_precision_sub_one]
    gcongr
    exact_mod_cast not_lt.1 hm

/-- A number has one significand and one exponent. -/
theorem Canonical.unique {m n : ℕ} {q r : ℤ} (hm : w.Canonical m q) (hn : w.Canonical n r)
    (h : (m : ℚ) * 2 ^ q = n * 2 ^ r) : m = n ∧ q = r := by
  have hle : ∀ {m n : ℕ} {q r : ℤ}, w.Canonical m q → w.Canonical n r → (m : ℚ) * 2 ^ q = n * 2 ^ r → r ≤ q := by
    intro m n q r hm hn h
    rcases hn.le with rfl | hfills
    · exact hm.2.1
    · have hlt : (2 : ℚ) ^ (w.precision - 1 + r : ℤ) < 2 ^ (w.precision + q : ℤ) := hfills.trans_lt (h ▸ hm.lt)
      have := (zpow_lt_zpow_iff_right₀ (by norm_num)).1 hlt
      omega
  obtain rfl : q = r := le_antisymm (hle hn hm h.symm) (hle hm hn h)
  have hpow : (2 : ℚ) ^ q ≠ 0 := by positivity
  exact ⟨by exact_mod_cast mul_right_cancel₀ hpow h, rfl⟩

end FloatWidth

namespace Binary

variable {w : FloatWidth} {num den : ℕ}

/-- Below the range's end a quotient is rounded to a finite float. -/
theorem ofRatio_eq_finite (negative : Bool) (hnum : 0 < num) (hden : 0 < den)
    (h : w.rounded num den < 2 ^ (w.precision + w.maxExponent : ℤ)) :
    ∃ m q hc, ofRatio w negative num den = .finite negative m q hc ∧ (m : ℚ) * 2 ^ q = w.rounded num den := by
  have hratio : ofRatio w negative num den =
      if w.units num den = 2 ^ w.precision then
        ofParts negative (2 ^ (w.precision - 1)) (w.unitExponent num den + 1)
      else ofParts negative (w.units num den) (w.unitExponent num den) := if_neg hnum.ne'
  have hpos := w.precision_pos
  have hmin := w.minExponent_le_unit num den
  have hunits := FloatWidth.units_le (w := w) hnum hden
  rw [hratio]
  unfold FloatWidth.rounded at h ⊢
  split
  · rename_i hfull
    have hexponent : w.unitExponent num den < w.maxExponent := by
      rw [hfull] at h
      push_cast at h
      rw [← zpow_natCast, ← zpow_add₀ (by norm_num)] at h
      have := (zpow_lt_zpow_iff_right₀ (by norm_num)).1 h
      omega
    have hc : w.Canonical (2 ^ (w.precision - 1)) (w.unitExponent num den + 1) :=
      ⟨Nat.pow_lt_pow_right (by norm_num) (by omega), by omega, by omega, fun h => absurd h (lt_irrefl _)⟩
    refine ⟨_, _, hc, dif_pos hc, ?_⟩
    rw [hfull, two_zpow_add_one, ← mul_assoc]
    congr 1
    exact_mod_cast Nat.two_pow_pred_mul_two hpos
  · rename_i hfull
    have hlt : w.units num den < 2 ^ w.precision := lt_of_le_of_ne hunits hfull
    have hc : w.Canonical (w.units num den) (w.unitExponent num den) := by
      rcases FloatWidth.unit_le (w := w) hnum hden with hunit | hunit
      · exact ⟨hlt, hmin, hunit ▸ w.minExponent_le_max, fun _ => hunit⟩
      · have hfills := FloatWidth.le_units hden hunit
        refine ⟨hlt, hmin, ?_, fun hm => absurd hfills (not_le.2 hm)⟩
        have hpow : (2 : ℚ) ^ (w.precision - 1 + w.unitExponent num den : ℤ) <
            2 ^ (w.precision + w.maxExponent : ℤ) := by
          refine lt_of_le_of_lt ?_ h
          rw [zpow_add₀ (by norm_num), w.cast_precision_sub_one]
          gcongr
          exact_mod_cast hfills
        have := (zpow_lt_zpow_iff_right₀ (by norm_num)).1 hpow
        omega
    exact ⟨_, _, hc, dif_pos hc, rfl⟩

/-- A quotient that is a number with a significand of the width is rounded to that number. -/
theorem ofRatio_of_onGrid (negative : Bool) (hden : 0 < den) {m : ℕ} {q : ℤ} (hm : m < 2 ^ w.precision)
    (hq : w.minExponent ≤ q) (hx : (num : ℚ) / den = m * 2 ^ q)
    (hlt : (m : ℚ) * 2 ^ q < 2 ^ (w.precision + w.maxExponent : ℤ)) :
    ∃ n r hc, ofRatio w negative num den = .finite negative n r hc ∧ (n : ℚ) * 2 ^ r = m * 2 ^ q := by
  rcases Nat.eq_zero_or_pos num with rfl | hnum
  · refine ⟨0, w.minExponent, w.canonical_zero, if_pos rfl, ?_⟩
    rw [← hx]
    simp
  · have hnearest := FloatWidth.rounded_nearest hnum hden hm hq
    rw [hx, sub_self, abs_zero, abs_nonpos_iff, sub_eq_zero] at hnearest
    obtain ⟨n, r, hc, hfinite, hvalue⟩ := ofRatio_eq_finite (w := w) negative hnum hden (hnearest ▸ hlt)
    exact ⟨n, r, hc, hfinite, hvalue.trans hnearest⟩

/-- **A float is the nearest one to itself.** -/
theorem toWidth_self (x : Binary w) : x.toWidth w = x := by
  cases x with
  | finite negative m q h =>
    have hlt : (m : ℚ) * 2 ^ q < 2 ^ (w.precision + w.maxExponent : ℤ) :=
      h.lt.trans_le (zpow_le_zpow_right₀ (by norm_num) (by have := h.2.2.1; omega))
    obtain ⟨n, r, hc, hfinite, hvalue⟩ :=
      ofRatio_of_onGrid negative (scaled_den_pos m q) h.1 h.2.1 (scaled_div m q) hlt
    obtain ⟨rfl, rfl⟩ := hc.unique h hvalue
    exact hfinite
  | _ => rfl

/-- Every finite float passes unchanged into the larger width. -/
theorem toDouble_finite (negative : Bool) {m : ℕ} {q : ℤ} (h : w.Canonical m q) :
    ∃ n r hc, (finite negative m q h).toWidth .double = .finite negative n r hc ∧ (n : ℚ) * 2 ^ r = m * 2 ^ q := by
  have hprecision : w.precision ≤ FloatWidth.double.precision := by cases w <;> decide
  have hmin : FloatWidth.double.minExponent ≤ w.minExponent := by cases w <;> decide
  have hmax : w.maxExponent ≤ FloatWidth.double.maxExponent := by cases w <;> decide
  refine ofRatio_of_onGrid negative (scaled_den_pos m q) (h.1.trans_le ?_) (hmin.trans h.2.1) (scaled_div m q) ?_
  · exact Nat.pow_le_pow_right (by norm_num) hprecision
  · refine h.lt.trans_le (zpow_le_zpow_right₀ (by norm_num) ?_)
    have := h.2.2.1
    omega

theorem toRat?_toDouble (x : Binary w) : (x.toWidth .double).toRat? = x.toRat? := by
  cases x with
  | finite negative m q h =>
    obtain ⟨n, r, hc, hfinite, hvalue⟩ := toDouble_finite negative h
    rw [hfinite, toRat?, toRat?, hvalue]
  | _ => rfl

end Binary

end RowBinding
