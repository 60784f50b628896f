import RowBinding.Proofs.ModularCasts
import RowBinding.Proofs.NearestFloats
/-!
# Casts of floats to integer types

A float that is cast to an integer type loses its fraction.  Where the rest does not fit, the end of the type's range
would be the nearest that there is; but the cast goes by way of 128 bit integers, **so it is the range of these that a
float is cut off at, and what comes of that is reduced modulo the width of the type** (`Value.cast_float_integer`).
Beyond its range a type shows its end only where the excess happens to be a multiple of its width.
-/
namespace RowBinding

namespace Binary

variable {w : FloatWidth}

/-- The float in a range of integers: its number without the fraction, the end of the range that is nearest to it where
it lies outside, and zero for what is no number. -/
def clamped (low high : ℤ) : Binary w → ℤ
  | .nan => 0
  | .infinite negative => if negative then low else high
  | x => max low (min high (towardZero (x.toRat?.getD 0)))

theorem clamped_nan (low high : ℤ) : (nan : Binary w).clamped low high = 0 := rfl

theorem clamped_infinite (negative : Bool) (low high : ℤ) :
    (infinite negative : Binary w).clamped low high = if negative then low else high := rfl

theorem clamped_of_toRat? {x : Binary w} {a : ℚ} (hx : x.toRat? = some a) (low high : ℤ) :
    x.clamped low high = max low (min high (towardZero a)) := by
  cases x with
  | finite negative m q h =>
    obtain rfl := Option.some.inj hx
    rfl
  | _ => cases hx

theorem saturated_eq (x : Binary w) : x.saturated = x.clamped narrowest widest := by
  cases x with
  | finite negative m q h =>
    have hsaturated : (finite negative m q h).saturated =
        max narrowest (min widest ((finite negative m q h).truncated?.getD 0)) := rfl
    rw [hsaturated, truncated?_eq]
    rfl
  | _ => rfl

theorem clamped_of_integer {x : Binary w} {n : ℤ} (hx : x.toRat? = some (n : ℚ)) (low high : ℤ) :
    x.clamped low high = max low (min high n) := by
  rw [clamped_of_toRat? hx, towardZero_intCast]

theorem clamped_toDouble (low high : ℤ) (x : Binary w) :
    (x.toWidth .double).clamped low high = x.clamped low high := by
  cases x with
  | finite negative m q h =>
    have hwidened : ((finite negative m q h).toWidth .double).toRat? = some _ := toRat?_toDouble _
    rw [clamped_of_toRat? hwidened, clamped_of_toRat? rfl]
  | _ => rfl

end Binary

namespace IntKind

variable {k : IntKind}

/-- How far a number lies beyond the kind's range. -/
def excess (k : IntKind) (n : ℤ) : ℤ := if n < k.min then n - k.min else if k.max < n then n - k.max else 0

theorem excess_eq (k : IntKind) (n : ℤ) : k.excess n = n - Max.max k.min (Min.min k.max n) := by
  have hmin := k.min_le_zero
  have hmax := k.zero_le_max
  unfold excess
  split
  · omega
  · split <;> omega

/-- The range of every kind lies within 128 bits. -/
theorem narrowest_lt_min (k : IntKind) : Binary.narrowest < k.min := by cases k <;> decide

theorem max_lt_widest (k : IntKind) : k.max < Binary.widest := by cases k <;> decide

/-- The ends of the 128 bit range become the ends of a kind's range only if the kind has no negative numbers. -/
theorem dvd_excess_end_iff (k : IntKind) (negative : Bool) :
    2 ^ k.bits ∣ k.excess (if negative then Binary.narrowest else Binary.widest) ↔ k.isSigned = false := by
  cases k <;> cases negative <;> decide

end IntKind

namespace Binary

variable {w : FloatWidth}

/-- The larger range may be taken first. -/
theorem clamp_clamped (k : IntKind) (x : Binary w) :
    max k.min (min k.max (x.clamped narrowest widest)) = x.clamped k.min k.max := by
  have hlow := k.narrowest_lt_min
  have hhigh := k.max_lt_widest
  have hmin := k.min_le_zero
  have hmax := k.zero_le_max
  cases x with
  | nan =>
    rw [clamped_nan, clamped_nan]
    omega
  | infinite negative =>
    rw [clamped_infinite, clamped_infinite]
    split <;> omega
  | finite negative m q h =>
    rw [clamped_of_toRat? rfl, clamped_of_toRat? rfl]
    omega

theorem spans_clamped (k : IntKind) (x : Binary w) : k.Spans (x.clamped k.min k.max) := by
  have hmin := k.min_le_zero
  have hmax := k.zero_le_max
  rw [IntKind.spans_iff_holds, IntKind.Holds, ← clamp_clamped]
  omega

end Binary

namespace Datum

open Binary in
theorem cast_float {w : FloatWidth} (x : Binary w) (k : IntKind) :
    (float w x).cast (.integer k) = .ok (integer k (.wrapped k (x.clamped narrowest widest))) := by
  rw [← clamped_toDouble, ← saturated_eq]
  rfl

end Datum

namespace Value

open Binary

variable {w : FloatWidth}

/-- **A float is cut off at the ends of the 128 bit range and then reduced modulo the width of its type.**  This is the
float in the range of the type itself exactly if the excess over that range is a multiple of the width, as it is in the
range, where there is none; of the infinities it is so for the types without a sign. -/
theorem cast_float_integer (x : Binary w) (k : IntKind) :
    ∃ b : Bounded k, (datum (.float w x)).cast (.integer k) = .ok (datum (.integer k b)) ∧
      (∀ n, n = b.toInt ↔ k.Spans n ∧ n ≡ x.clamped narrowest widest [ZMOD 2 ^ k.bits]) ∧
      (b.toInt = x.clamped k.min k.max ↔ 2 ^ k.bits ∣ k.excess (x.clamped narrowest widest)) ∧
      ∀ negative, x = .infinite negative → (b.toInt = x.clamped k.min k.max ↔ k.isSigned = false) := by
  have hcast : (datum (.float w x)).cast (.integer k) =
      .ok (datum (.integer k (.wrapped k (x.clamped narrowest widest)))) := by
    rw [cast, Datum.cast_float]
    rfl
  have hclamped : (Bounded.wrapped k (x.clamped narrowest widest)).toInt = x.clamped k.min k.max ↔
      2 ^ k.bits ∣ k.excess (x.clamped narrowest widest) := by
    rw [eq_comm, Bounded.eq_wrapped_iff, Int.modEq_iff_dvd, IntKind.excess_eq, clamp_clamped]
    exact and_iff_right (spans_clamped k x)
  refine ⟨_, hcast, fun n => Bounded.eq_wrapped_iff, hclamped, ?_⟩
  rintro negative rfl
  rw [hclamped]
  exact k.dvd_excess_end_iff negative

/-- Three hundred. -/
def threeHundred : Binary .double := .finite false (300 * 2 ^ 44) (-44) (by decide)

/-- Three hundred is beyond the bytes with a sign.  The nearest one is `127`, but the cast gives `44`. -/
theorem cast_threeHundred : threeHundred.toRat? = some 300 ∧
    threeHundred.clamped IntKind.int8.min IntKind.int8.max = 127 ∧
    (datum (.float .double threeHundred)).cast (.integer .int8) = .ok (datum (.integer .int8 ⟨44, by decide⟩)) := by
  have hrat : threeHundred.toRat? = some 300 := by norm_num [threeHundred, toRat?]
  have hclamped : threeHundred.clamped IntKind.int8.min IntKind.int8.max =
      max (-128) (min 127 (towardZero (threeHundred.toRat?.getD 0))) := rfl
  have htruncated : towardZero 300 = 300 := by exact_mod_cast towardZero_intCast 300
  rw [hclamped, hrat, Option.getD_some, htruncated]
  exact ⟨rfl, rfl, by decide⟩

end Value

end RowBinding
