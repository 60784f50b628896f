import Mathlib.Algebra.Order.Monoid.WithTop
import RowBinding.Rules.Resolution
import RowBinding.Proofs.RepresentedIntegers
/-!
# Numbers as truth values

Where a truth value is wanted, a number other than zero is true.  A conversion goes by that.  A cast drops the fraction
first, **so that to it all the numbers between minus one and one are zero** (`Value.truth_of_number`), and of a float
between them the two modes make different truth values.  A decimal between them the conversion does not take at all: it
has a fraction.
-/
namespace RowBinding

theorem towardZero_eq_zero_iff {x : ℚ} : towardZero x = 0 ↔ |x| < 1 := by
  unfold towardZero
  rcases le_or_gt 0 x with h | h
  · rw [if_pos h, Int.floor_eq_zero_iff, Set.mem_Ico, abs_of_nonneg h]
    exact and_iff_right h
  · rw [if_neg (not_le.2 h), Int.ceil_eq_zero_iff, Set.mem_Ioc, abs_of_neg h, neg_lt]
    exact and_iff_left h.le

theorem one_le_abs_intCast_iff {n : ℤ} : 1 ≤ |(n : ℚ)| ↔ n ≠ 0 := by
  rw [← Int.cast_abs, ← Int.cast_one, Int.cast_le]
  exact Int.add_one_le_iff.trans abs_pos

namespace Binary

variable {w : FloatWidth}

/-- How far a float lies from zero; the infinities lie beyond all numbers, and what is no number lies nowhere. -/
def distance? : Binary w → Option (WithTop ℚ)
  | .infinite _ => some ⊤
  | x => x.toRat?.map fun a => ((|a| : ℚ) : WithTop ℚ)

theorem distance?_finite {negative : Bool} {m : ℕ} {q : ℤ} (h : w.Canonical m q) :
    (finite negative m q h).distance? = (finite negative m q h).toRat?.map fun a => ((|a| : ℚ) : WithTop ℚ) := rfl

theorem distance?_toDouble (x : Binary w) : (x.toWidth .double).distance? = x.distance? := by
  cases x with
  | finite negative m q h =>
    obtain ⟨n, r, hc, hfinite, -⟩ := toDouble_finite negative h
    have hrat := toRat?_toDouble (finite negative m q h)
    rw [hfinite] at hrat ⊢
    rw [distance?_finite, distance?_finite, hrat]
  | _ => rfl

variable {x : Binary w} {a : WithTop ℚ}

/-- The number that a cast starts from is zero for all floats nearer to zero than one. -/
theorem saturated_ne_zero_iff (h : x.distance? = some a) : x.saturated ≠ 0 ↔ 1 ≤ a := by
  have hlow : narrowest < 0 := by decide
  have hhigh : 0 < widest := by decide
  cases x with
  | nan => cases h
  | infinite negative =>
    obtain rfl := Option.some.inj h
    refine iff_of_true ?_ le_top
    cases negative
    · exact hhigh.ne'
    · exact hlow.ne
  | finite negative m q hc =>
    rw [distance?_finite] at h
    obtain ⟨b, hb, rfl⟩ := Option.map_eq_some_iff.1 h
    have hone : (1 : WithTop ℚ) ≤ (|b| : ℚ) ↔ 1 ≤ |b| := WithTop.one_le_coe
    rw [saturated_eq, clamped_of_toRat? hb, hone, ← not_lt, ← towardZero_eq_zero_iff]
    omega

theorem isZero_iff (h : x.distance? = some a) : x.isZero = true ↔ a = 0 := by
  cases x with
  | nan => cases h
  | infinite negative =>
    obtain rfl := Option.some.inj h
    exact iff_of_false Bool.false_ne_true WithTop.top_ne_zero
  | finite negative m q hc =>
    rw [distance?_finite] at h
    obtain ⟨b, hb, rfl⟩ := Option.map_eq_some_iff.1 h
    have habs := abs_toRat hb
    rw [WithTop.coe_eq_zero, habs, mul_eq_zero, Nat.cast_eq_zero, isZero, beq_iff_eq]
    exact (or_iff_left (zpow_ne_zero q two_ne_zero)).symm

end Binary

namespace Datum

/-- How far a number lies from zero. -/
def distance? : Datum → Option (WithTop ℚ)
  | integer _ n => some ((|(n.toInt : ℚ)| : ℚ) : WithTop ℚ)
  | float _ x => x.distance?
  | decimal x => some ((|x.toRat| : ℚ) : WithTop ℚ)
  | _ => none

variable {d r : Datum} {a : WithTop ℚ}

theorem ne_boolean_of_distance? (h : d.distance? = some a) : d.type ≠ .boolean := by
  cases d with
  | boolean b => cases h
  | _ => nofun

theorem bne_zero_iff {n : ℤ} : (n != 0) = true ↔ (1 : WithTop ℚ) ≤ (|(n : ℚ)| : ℚ) := by
  rw [bne_iff_ne, WithTop.one_le_coe, one_le_abs_intCast_iff]

/-- **To a cast a number is true if it is no nearer to zero than one.** -/
theorem cast_boolean (h : d.distance? = some a) : ∃ b, d.cast .boolean = .ok (boolean b) ∧ (b = true ↔ 1 ≤ a) := by
  rw [cast, if_neg (ne_boolean_of_distance? h)]
  cases d with
  | integer k n =>
    obtain rfl := Option.some.inj h
    exact ⟨_, rfl, bne_zero_iff⟩
  | float w x =>
    refine ⟨(x.toWidth .double).saturated != 0, rfl, ?_⟩
    rw [bne_iff_ne]
    exact Binary.saturated_ne_zero_iff ((Binary.distance?_toDouble x).trans h)
  | decimal x =>
    obtain rfl := Option.some.inj h
    refine ⟨x.truncated != 0, rfl, ?_⟩
    rw [bne_iff_ne, Decimal.truncated_eq, WithTop.one_le_coe, ← not_lt, ← towardZero_eq_zero_iff]
  | _ => cases h

theorem boolean_eq_iff {c : Bool} {p : Prop} (hc : c = true ↔ p) :
    boolean c = r ↔ ∃ b, r = boolean b ∧ (b = true ↔ p) := by
  constructor
  · rintro rfl
    exact ⟨c, rfl, hc⟩
  · rintro ⟨b, rfl, hb⟩
    rw [Bool.eq_iff_iff.2 (hc.trans hb.symm)]

/-- **To a conversion a number is true if it is not zero.**  The only numbers that it does not take are the decimals with
a fraction. -/
theorem convert_boolean_iff (h : d.distance? = some a) : d.convert .boolean = .ok r ↔
    (∀ x : Decimal, d = decimal x → ∃ n : ℤ, x.toRat = n) ∧ ∃ b, r = boolean b ∧ (b = true ↔ a ≠ 0) := by
  rw [convert, if_neg (ne_boolean_of_distance? h)]
  cases d with
  | integer k n =>
    obtain rfl := Option.some.inj h
    have hconvert : (integer k n).convertTo .boolean = .ok (boolean (n.toInt != 0)) := rfl
    rw [hconvert, Except.ok.injEq, and_iff_right fun x hx => by cases hx]
    refine boolean_eq_iff ?_
    rw [bne_iff_ne, Ne, Ne, WithTop.coe_eq_zero, abs_eq_zero, Int.cast_eq_zero]
  | float w x =>
    have hconvert : (float w x).convertTo .boolean = .ok (boolean (!(x.toWidth .double).isZero)) := rfl
    rw [hconvert, Except.ok.injEq, and_iff_right fun x hx => by cases hx]
    refine boolean_eq_iff ?_
    rw [Bool.not_eq_true', ← Bool.not_eq_true, Binary.isZero_iff ((Binary.distance?_toDouble x).trans h)]
  | decimal x =>
    obtain rfl := Option.some.inj h
    have hconvert : (decimal x).convertTo .boolean = (decimal x).convertNumber .boolean := rfl
    have hchecked : ofCheckedNumber .boolean (.decimal x) =
        if x.isIntegral then .ok (some (boolean (x.truncated != 0)))
        else .error (.notIntegral (.decimal x) .boolean) := rfl
    have hinteger : (∀ y : Decimal, decimal x = decimal y → ∃ n : ℤ, y.toRat = n) ↔ x.isIntegral = true := by
      constructor
      · intro hall
        obtain ⟨n, hn⟩ := hall x rfl
        exact (Decimal.toRat_eq_intCast_iff.1 hn).1
      · rintro hintegral y heq
        obtain rfl := decimal.inj heq
        exact ⟨_, Decimal.toRat_of_isIntegral hintegral⟩
    rw [hconvert, convertNumber_eq_ok (x := .decimal x) rfl, hchecked, hinteger]
    split
    · rename_i hintegral
      rw [Except.ok.injEq, Option.some.injEq, and_iff_right hintegral]
      refine boolean_eq_iff ?_
      rw [bne_iff_ne, Ne, Ne, WithTop.coe_eq_zero, abs_eq_zero, Decimal.toRat_of_isIntegral hintegral, Int.cast_eq_zero]
    · rename_i hintegral
      exact iff_of_false (fun hok => by cases hok) fun hboth => hintegral hboth.1
  | _ => cases h

theorem distance?_nonneg (h : d.distance? = some a) : 0 ≤ a := by
  have habs : ∀ b : ℚ, (0 : WithTop ℚ) ≤ (|b| : ℚ) := fun b => WithTop.coe_nonneg.2 (abs_nonneg b)
  cases d with
  | integer k n =>
    obtain rfl := Option.some.inj h
    exact habs _
  | decimal x =>
    obtain rfl := Option.some.inj h
    exact habs _
  | float w x =>
    cases x with
    | nan => cases h
    | infinite negative =>
      obtain rfl := Option.some.inj h
      exact le_top
    | finite negative m q hc =>
      rw [distance?, Binary.distance?_finite] at h
      obtain ⟨b, -, rfl⟩ := Option.map_eq_some_iff.1 h
      exact habs b
  | _ => cases h

end Datum

theorem one_le_iff_ne_zero_iff {a : WithTop ℚ} (h : 0 ≤ a) : (1 ≤ a ↔ a ≠ 0) ↔ ¬ (0 < a ∧ a < 1) := by
  rw [not_and, not_lt, lt_iff_le_and_ne, and_iff_right h, ne_comm]
  constructor
  · exact fun hiff => hiff.2
  · refine fun hone => ⟨?_, hone⟩
    rintro hle rfl
    exact absurd hle (not_le.2 zero_lt_one)

namespace Value

/-- **A number is cast to true if it is no nearer to zero than one, and converted to true if it is not zero.**  So a cast
is right about a number, and the modes make the same truth value of it, exactly if the number does not lie between zero
and one in magnitude.  A cast takes every number, a conversion all but the decimals with a fraction. -/
theorem truth_of_number (d : Datum) (a : WithTop ℚ) (ha : d.distance? = some a) :
    Coercion.between .plain d.type .boolean = .cast .boolean ∧
    Coercion.between .automatic d.type .boolean = .convert .boolean ∧
    ((∃ w, (datum d).convert .boolean = .ok w) ↔ ∀ x : Decimal, d = .decimal x → ∃ n : ℤ, x.toRat = n) ∧
    ∃ b, (datum d).cast .boolean = .ok (boolean b) ∧ (b = true ↔ 1 ≤ a) ∧
      ((b = true ↔ a ≠ 0) ↔ ¬ (0 < a ∧ a < 1)) ∧
      ∀ w, (datum d).convert .boolean = .ok w →
        ∃ c, w = boolean c ∧ (c = true ↔ a ≠ 0) ∧ (b = c ↔ ¬ (0 < a ∧ a < 1)) := by
  have hne := Datum.ne_boolean_of_distance? ha
  have hiff := one_le_iff_ne_zero_iff (Datum.distance?_nonneg ha)
  obtain ⟨b, hcast, hb⟩ := Datum.cast_boolean ha
  refine ⟨if_neg hne, if_neg hne, ?_, b, ?_, hb, ?_, fun w hw => ?_⟩
  · simp only [convert_datum_eq_ok, Datum.convert_boolean_iff ha]
    constructor
    · rintro ⟨w, r, ⟨hinteger, -⟩, -⟩
      exact hinteger
    · intro hinteger
      exact ⟨_, _, ⟨hinteger, decide (a ≠ 0), rfl, decide_eq_true_iff⟩, rfl⟩
  · rw [cast, hcast]
    rfl
  · rwa [hb]
  · obtain ⟨r, hr, rfl⟩ := convert_datum_eq_ok.1 hw
    obtain ⟨-, c, rfl, hc⟩ := (Datum.convert_boolean_iff ha).1 hr
    refine ⟨c, rfl, hc, ?_⟩
    rw [Bool.eq_iff_iff, hb, hc]
    exact hiff

/-- Nine tenths, to three places. -/
def smallChange : Decimal := ⟨false, 900, 3, by decide, by decide⟩

/-- They are cast to false, and not converted at all. -/
theorem truth_of_smallChange : (Datum.decimal smallChange).distance? = some ((9 / 10 : ℚ) : WithTop ℚ) ∧
    (datum (.decimal smallChange)).cast .boolean = .ok (boolean false) ∧
    ¬ ∃ w, (datum (.decimal smallChange)).convert .boolean = .ok w := by
  have hrat : smallChange.toRat = 9 / 10 := by norm_num [smallChange, Decimal.toRat, Decimal.signed]
  have hdistance : (Datum.decimal smallChange).distance? = some ((9 / 10 : ℚ) : WithTop ℚ) := by
    rw [Datum.distance?, hrat, abs_of_pos (by norm_num)]
  obtain ⟨-, -, hconverts, b, hcast, hb, -⟩ := truth_of_number _ _ hdistance
  refine ⟨hdistance, ?_, fun h => ?_⟩
  · have hbelow : ¬ (1 : WithTop ℚ) ≤ (9 / 10 : ℚ) := by
      rw [WithTop.one_le_coe]
      norm_num
    rw [hcast, Bool.eq_false_iff.2 fun htrue => hbelow (hb.1 htrue)]
  · obtain ⟨n, hn⟩ := hconverts.1 h smallChange rfl
    exact absurd (Decimal.toRat_eq_intCast_iff.1 hn).1 (by decide)

/-- One half. -/
def half : Binary .double := .finite false (2 ^ 52) (-53) (by decide)

/-- One half is not zero, and a conversion makes it true; but a cast makes it false. -/
theorem cast_half : half.toRat? = some (1 / 2) ∧
    (datum (.float .double half)).cast .boolean = .ok (boolean false) ∧
    (datum (.float .double half)).convert .boolean = .ok (boolean true) := by
  refine ⟨?_, by decide, by decide⟩
  norm_num [half, Binary.toRat?]

end Value

end RowBinding
