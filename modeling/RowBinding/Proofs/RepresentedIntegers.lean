import RowBinding.Proofs.SaturatingCasts
/-!
# Integers as floats

The significand of a float has room for the first bits of an integer only.  **An integer always becomes the nearest
float, and it comes back from there exactly if its bits, the zeros at the end aside, fit into the significand**
(`Value.convert_integer_float`).  In the other direction the conversion is exact or fails (`Datum.convert_float_iff`).
-/
namespace RowBinding

/-- The magnitude of the integer is a significand of the width with zeros behind it. -/
def FloatWidth.Represents (w : FloatWidth) (n : ℤ) : Prop := ∃ m e : ℕ, m < 2 ^ w.precision ∧ n.natAbs = m * 2 ^ e

namespace Binary

variable {w : FloatWidth} {n : ℤ}

theorem abs_toRat {negative : Bool} {m : ℕ} {q : ℤ} {h : w.Canonical m q} {a : ℚ}
    (ha : (finite negative m q h).toRat? = some a) : |a| = m * 2 ^ q := by
  obtain rfl := Option.some.inj ha
  have hnonneg : (0 : ℚ) ≤ m * 2 ^ q := by positivity
  cases negative with
  | false => exact abs_of_nonneg hnonneg
  | true => exact (abs_neg _).trans (abs_of_nonneg hnonneg)

/-- An integer that a float denotes is a significand with zeros behind it. -/
theorem represents_of_toRat? {x : Binary w} (hx : x.toRat? = some (n : ℚ)) : w.Represents n := by
  cases x with
  | finite negative m q h =>
    have habs : ((n.natAbs : ℕ) : ℚ) = m * 2 ^ q := by rw [Nat.cast_natAbs, Int.cast_abs, abs_toRat hx]
    rcases le_or_gt 0 q with hq | hq
    · refine ⟨m, q.toNat, h.1, ?_⟩
      rw [← Int.toNat_of_nonneg hq, zpow_natCast] at habs
      exact_mod_cast habs
    · -- with a fraction's unit the integer is no larger than the significand
      refine ⟨n.natAbs, 0, lt_of_le_of_lt ?_ h.1, (mul_one _).symm⟩
      have hle : ((n.natAbs : ℕ) : ℚ) ≤ m := by
        rw [habs]
        exact mul_le_of_le_one_right (by positivity) (zpow_le_one_of_nonpos₀ (by norm_num) hq.le)
      exact_mod_cast hle
  | _ => cases hx

theorem ofInt_eq_finite (hn : n ≠ 0) (hlt : n.natAbs < 2 ^ 64) :
    ∃ m q hc, ofInt w n = finite (n < 0) m q hc ∧ (m : ℚ) * 2 ^ q = w.rounded n.natAbs 1 := by
  have hpos : 0 < n.natAbs := Int.natAbs_pos.2 hn
  refine ofRatio_eq_finite _ hpos one_pos ?_
  -- zero is no nearer, so the result is at most twice the magnitude
  have hzero := FloatWidth.rounded_nearest (w := w) hpos one_pos (m := 0) (Nat.two_pow_pos _) le_rfl
  have hlt' : (n.natAbs : ℚ) < 2 ^ 64 := by exact_mod_cast hlt
  have hrange : (2 : ℚ) ^ 65 ≤ 2 ^ (w.precision + w.maxExponent : ℤ) := by
    rw [← zpow_natCast]
    exact zpow_le_zpow_right₀ (by norm_num) (by cases w <;> decide)
  rw [Nat.cast_one, div_one, Nat.cast_zero, zero_mul, zero_sub, abs_neg, Nat.abs_cast] at hzero
  have hle := (abs_le.1 hzero).2
  linarith

theorem toRat?_zero (negative : Bool) : (zero negative : Binary w).toRat? = some 0 := by
  cases negative <;> simp [zero, toRat?]

/-- **An integer of 64 bits becomes the nearest float.** -/
theorem ofInt_nearest (w : FloatWidth) (hlt : n.natAbs < 2 ^ 64) : ∃ y, (ofInt w n).toRat? = some y ∧
    (∀ (z : Binary w) (a : ℚ), z.toRat? = some a → |y - n| ≤ |a - n|) ∧ (w.Represents n → y = n) := by
  by_cases hn : n = 0
  · subst hn
    refine ⟨0, toRat?_zero false, fun z a _ => ?_, fun _ => by simp⟩
    simp
  · have hpos : 0 < n.natAbs := Int.natAbs_pos.2 hn
    obtain ⟨m, q, hc, hfinite, hvalue⟩ := ofInt_eq_finite (w := w) hn hlt
    have hsigned : ∀ v : ℚ, |(if n < 0 then -v else v) - n| = |v - n.natAbs| := by
      intro v
      rw [Nat.cast_natAbs, Int.cast_abs]
      split
      · rename_i hneg
        have hneg' : (n : ℚ) < 0 := by exact_mod_cast hneg
        rw [abs_of_neg hneg', ← abs_neg]
        congr 1
        ring
      · rename_i hneg
        have hnonneg : (0 : ℚ) ≤ n := by exact_mod_cast not_lt.1 hneg
        rw [abs_of_nonneg hnonneg]
    have hnearest : ∀ {k : ℕ} {r : ℤ}, k < 2 ^ w.precision → w.minExponent ≤ r →
        |w.rounded n.natAbs 1 - n.natAbs| ≤ |k * 2 ^ r - (n.natAbs : ℚ)| := by
      intro k r hk hr
      have h := FloatWidth.rounded_nearest (w := w) hpos one_pos hk hr
      rwa [Nat.cast_one, div_one] at h
    refine ⟨if n < 0 then -w.rounded n.natAbs 1 else w.rounded n.natAbs 1, ?_, fun z a ha => ?_, ?_⟩
    · rw [hfinite, toRat?, hvalue]
      simp only [decide_eq_true_eq]
    · rw [hsigned]
      cases z with
      | finite negative k r hk =>
        refine (hnearest hk.1 hk.2.1).trans ?_
        rw [← abs_toRat ha, Nat.cast_natAbs, Int.cast_abs]
        exact abs_abs_sub_abs_le _ _
      | _ => cases ha
    · rintro ⟨k, e, hk, he⟩
      have hmin : w.minExponent ≤ e := by cases w <;> simp only [FloatWidth.minExponent] <;> omega
      have h := hnearest hk hmin
      rw [zpow_natCast, he] at h
      push_cast at h
      rw [sub_self, abs_zero, abs_nonpos_iff] at h
      rw [← sub_eq_zero, ← abs_eq_zero, hsigned, he]
      push_cast
      rw [h, abs_zero]

end Binary

/-- The integers of every kind have at most 64 bits. -/
theorem Bounded.natAbs_lt_two_pow {k : IntKind} (n : Bounded k) : n.toInt.natAbs < 2 ^ 64 := by
  have h := n.holds
  cases k <;> simp only [IntKind.Holds, IntKind.min, IntKind.max] at h <;> omega

namespace Datum

variable {w : FloatWidth} {k : IntKind} {r : Datum}

/-- **A float becomes an integer of a type exactly if it denotes one that the type has.** -/
theorem convert_float_iff {x : Binary w} : (float w x).convert (.integer k) = .ok r ↔
    ∃ b : Bounded k, x.toRat? = some (b.toInt : ℚ) ∧ r = integer k b := by
  have hconvert : (float w x).convert (.integer k) = (float w x).convertNumber (.integer k) := rfl
  have hnumber : (float w x).number? = some (.float (x.toWidth .double)) := rfl
  have hchecked : ofCheckedNumber (.integer k) (.float (x.toWidth .double)) =
      if (x.toWidth .double).isIntegral then ofChecked (.integer k) (x.toWidth .double).saturated
      else .error (.notIntegral (.float (x.toWidth .double)) (.integer k)) := rfl
  have hlow := k.narrowest_lt_min
  have hhigh := k.max_lt_widest
  rw [hconvert, convertNumber_eq_ok hnumber, hchecked, ← Binary.toRat?_toDouble]
  constructor
  · intro h
    split at h
    · rename_i hintegral
      obtain ⟨m, hm⟩ := (Binary.isIntegral_iff _).1 hintegral
      obtain ⟨b, hb, rfl⟩ := ofChecked_integer_iff.1 h
      rw [Binary.saturated_eq, Binary.clamped_of_integer hm] at hb
      -- the number lies within 128 bits, or else the end of that range would be one of the type
      have hholds := b.holds
      unfold IntKind.Holds at hholds
      have hsame : m = b.toInt := by omega
      exact ⟨b, hsame ▸ hm, rfl⟩
    · cases h
  · rintro ⟨b, hb, rfl⟩
    have hholds := b.holds
    unfold IntKind.Holds at hholds
    rw [if_pos ((Binary.isIntegral_iff _).2 ⟨_, hb⟩), Binary.saturated_eq, Binary.clamped_of_integer hb]
    exact ofChecked_integer_iff.2 ⟨b, by omega, rfl⟩

end Datum

namespace Value

/-- **An integer becomes the nearest float, whatever is lost by that.**  The conversion never fails, and the number that
was converted comes back exactly if the width represents it. -/
theorem convert_integer_float (k : IntKind) (n : Bounded k) (w : FloatWidth) :
    ∃ (x : Binary w) (y : ℚ), (datum (.integer k n)).convert (.float w) = .ok (datum (.float w x)) ∧
      x.toRat? = some y ∧ (∀ (z : Binary w) (a : ℚ), z.toRat? = some a → |y - n.toInt| ≤ |a - n.toInt|) ∧
      ((datum (.float w x)).convert (.integer k) = .ok (datum (.integer k n)) ↔ w.Represents n.toInt) := by
  obtain ⟨y, hy, hnearest, hexact⟩ := Binary.ofInt_nearest w n.natAbs_lt_two_pow
  refine ⟨.ofInt w n.toInt, y, rfl, hy, hnearest, ?_⟩
  have hback : (datum (.float w (.ofInt w n.toInt))).convert (.integer k) = .ok (datum (.integer k n)) ↔
      (Binary.ofInt w n.toInt).toRat? = some (n.toInt : ℚ) := by
    rw [convert_datum_eq_ok]
    constructor
    · rintro ⟨r, hr, hn⟩
      obtain ⟨b, hb, rfl⟩ := Datum.convert_float_iff.1 hr
      obtain rfl : n = b := by simpa using hn
      exact hb
    · exact fun h => ⟨_, Datum.convert_float_iff.2 ⟨n, h, rfl⟩, rfl⟩
  rw [hback]
  constructor
  · exact Binary.represents_of_toRat?
  · intro h
    rw [hy, hexact h]

/-- The first integer that no float of 32 bits represents. -/
def pastSignificand : Bounded .int32 := ⟨2 ^ 24 + 1, by decide⟩

/-- It becomes the float of its predecessor, which is the one that comes back. -/
theorem convert_pastSignificand : ∃ x, (datum (.integer .int32 pastSignificand)).convert (.float .single) =
      .ok (datum (.float .single x)) ∧
    (datum (.float .single x)).convert (.integer .int32) = .ok (datum (.integer .int32 ⟨2 ^ 24, by decide⟩)) := by
  refine ⟨.ofInt .single (2 ^ 24 + 1), rfl, ?_⟩
  decide

end Value

end RowBinding
