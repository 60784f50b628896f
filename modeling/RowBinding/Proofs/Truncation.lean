import Mathlib.Data.Rat.Floor
import RowBinding.Proofs.ExactConversions
/-!
# Numbers without their fraction

Decimals and floats may have a fraction, which an integer type has no room for.  **What is left of a number then is the
integer next to it on the side of zero** (`Decimal.truncated_eq`, `Binary.truncated?_eq`), and that is the number itself
exactly if it has no fraction (`Binary.isIntegral_iff`).
-/
namespace RowBinding

/-- The number without its fraction: the next integer on the side of zero. -/
def towardZero (x : ℚ) : ℤ := if 0 ≤ x then ⌊x⌋ else ⌈x⌉

theorem towardZero_intCast (n : ℤ) : towardZero n = n := by
  unfold towardZero
  rw [Int.floor_intCast, Int.ceil_intCast, ite_self]

theorem towardZero_neg (x : ℚ) : towardZero (-x) = -towardZero x := by
  unfold towardZero
  rcases lt_trichotomy x 0 with h | rfl | h
  · have hneg : 0 ≤ -x := by linarith
    rw [if_pos hneg, if_neg (not_le.2 h), Int.floor_neg]
  · simp
  · have hneg : ¬ 0 ≤ -x := by linarith
    rw [if_neg hneg, if_pos h.le, Int.ceil_neg]

theorem towardZero_natCast_div (n d : ℕ) : towardZero ((n : ℚ) / d) = (n / d : ℕ) := by
  have hnonneg : (0 : ℚ) ≤ (n : ℚ) / d := by positivity
  rw [towardZero, if_pos hnonneg, Rat.floor_natCast_div_natCast]
  rfl

/-- A quotient is an integer exactly if nothing remains. -/
theorem exists_natCast_div_eq_iff {n d : ℕ} (hd : 0 < d) : (∃ k : ℤ, (n : ℚ) / d = k) ↔ n % d = 0 := by
  have hne : (d : ℚ) ≠ 0 := by exact_mod_cast hd.ne'
  constructor
  · rintro ⟨k, hk⟩
    rw [div_eq_iff hne] at hk
    have hdvd : (d : ℤ) ∣ n := ⟨k, by rw [mul_comm]; exact_mod_cast hk⟩
    exact Nat.mod_eq_zero_of_dvd (Int.natCast_dvd_natCast.1 hdvd)
  · intro hmod
    refine ⟨(n / d : ℕ), ?_⟩
    rw [div_eq_iff hne]
    exact_mod_cast (Nat.div_mul_cancel (Nat.dvd_of_mod_eq_zero hmod)).symm

theorem two_zpow_eq_div (e : ℤ) : (2 : ℚ) ^ e = 2 ^ e.toNat / 2 ^ (-e).toNat := by
  rw [eq_div_iff (by positivity), ← zpow_natCast, ← zpow_natCast, ← zpow_add₀ (by norm_num)]
  congr 1
  omega

theorem Decimal.truncated_eq (x : Decimal) : x.truncated = towardZero x.toRat := by
  have hmagnitude : towardZero ((x.mantissa : ℚ) / 10 ^ x.scale) = (x.mantissa / 10 ^ x.scale : ℕ) := by
    have h := towardZero_natCast_div x.mantissa (10 ^ x.scale)
    push_cast at h
    exact_mod_cast h
  unfold truncated toRat signed
  split
  · rw [Int.cast_neg, neg_div, towardZero_neg, Int.cast_natCast, hmagnitude]
  · rw [Int.cast_natCast, hmagnitude]

namespace Binary

variable {w : FloatWidth}

/-- The number that a float denotes, if it is finite. -/
def toRat? : Binary w → Option ℚ
  | .finite negative m q _ => some (if negative then -(m * 2 ^ q) else m * 2 ^ q)
  | _ => none

theorem scaled_div (m : ℕ) (q : ℤ) : ((scaled m q).1 : ℚ) / (scaled m q).2 = m * 2 ^ q := by
  rw [two_zpow_eq_div, scaled]
  push_cast
  ring

theorem scaled_den_pos (m : ℕ) (q : ℤ) : 0 < (scaled m q).2 := Nat.two_pow_pos _

/-- A float without its fraction is its number without a fraction. -/
theorem truncated?_eq (x : Binary w) : x.truncated? = x.toRat?.map towardZero := by
  cases x with
  | finite negative m q h =>
    have hmagnitude := towardZero_natCast_div (scaled m q).1 (scaled m q).2
    rw [scaled_div] at hmagnitude
    simp only [truncated?, toRat?, Option.map_some]
    split
    · rw [towardZero_neg, hmagnitude]
    · rw [hmagnitude]
  | _ => rfl

theorem isIntegral_iff (x : Binary w) : x.isIntegral = true ↔ ∃ n : ℤ, x.toRat? = some (n : ℚ) := by
  cases x with
  | finite negative m q h =>
    have hmod := exists_natCast_div_eq_iff (n := (scaled m q).1) (scaled_den_pos m q)
    rw [scaled_div] at hmod
    simp only [isIntegral, toRat?, beq_iff_eq, Option.some.injEq]
    rw [← hmod]
    cases negative with
    | false => rfl
    | true =>
      constructor
      · rintro ⟨n, hn⟩
        exact ⟨-n, by simp [hn]⟩
      · rintro ⟨n, hn⟩
        exact ⟨-n, by simp [← hn]⟩
  | _ => simp [isIntegral, toRat?]

end Binary

end RowBinding
