import Mathlib.Data.Int.ModEq
import RowBinding.Proofs.Truncation
/-!
# Casts to integer types

A cast to an integer type never fails on an exact number.  **It drops the fraction and reduces what is left modulo the
width of the type** (`Value.cast_modular`), so that a detour through a type that is at least as wide changes nothing,
and between two types of one width there is a way back.
-/
namespace RowBinding

namespace IntKind

variable {k : IntKind}

/-- A kind has at most one integer of each class modulo its width. -/
theorem eq_of_modEq {m n : ℤ} (hm : k.Spans m) (hn : k.Spans n) (h : m ≡ n [ZMOD 2 ^ k.bits]) : m = n := by
  rw [spans_iff_holds] at hm hn
  unfold Int.ModEq at h
  cases k <;> simp only [Holds, bits, min, max] at hm hn h <;> omega

end IntKind

namespace Bounded

variable {k j : IntKind} {n : ℤ}

theorem residue_modEq (k : IntKind) (n : ℤ) : residue k n ≡ n [ZMOD 2 ^ k.bits] := by
  unfold Int.ModEq
  cases k <;> simp only [residue, IntKind.bits, IntKind.max] <;> omega

theorem spans (b : Bounded k) : k.Spans b.toInt := IntKind.spans_iff_holds.2 b.holds

theorem eq_wrapped_iff {m : ℤ} : m = (wrapped k n).toInt ↔ k.Spans m ∧ m ≡ n [ZMOD 2 ^ k.bits] := by
  constructor
  · rintro rfl
    exact ⟨(wrapped k n).spans, residue_modEq k n⟩
  · rintro ⟨hspans, hmod⟩
    exact IntKind.eq_of_modEq hspans (wrapped k n).spans (hmod.trans (residue_modEq k n).symm)

theorem wrapped_eq_self (b : Bounded k) : wrapped k b.toInt = b := eq_of_toInt (residue_eq_self b.holds)

theorem wrapped_congr {m : ℤ} (h : m ≡ n [ZMOD 2 ^ k.bits]) : wrapped k m = wrapped k n :=
  eq_of_toInt (eq_wrapped_iff.2 ⟨(wrapped k m).spans, (residue_modEq k m).trans h⟩)

/-- Reducing modulo a larger width first changes nothing. -/
theorem wrapped_wrapped (h : k.bits ≤ j.bits) : wrapped k (wrapped j n).toInt = wrapped k n :=
  wrapped_congr ((residue_modEq j n).of_dvd (pow_dvd_pow 2 h))

end Bounded

namespace Datum

variable {d : Datum} {x : ℚ}

/-- **An exact number is cast to the residue of its integral part.** -/
theorem cast_integer (h : d.denotes? = some x) (k : IntKind) :
    d.cast (.integer k) = .ok (integer k (.wrapped k (towardZero x))) := by
  by_cases hsame : d.type = .integer k
  · rw [cast, if_pos hsame]
    cases d with
    | integer j n =>
      obtain rfl := ValueType.integer.inj hsame
      obtain rfl := Option.some.inj h
      rw [towardZero_intCast, Bounded.wrapped_eq_self]
    | _ => cases hsame
  · rw [cast, if_neg hsame]
    rcases number?_of_denotes? h with ⟨n, hn, -, rfl⟩ | ⟨y, rfl, rfl⟩
    · rw [hn, towardZero_intCast]
      rfl
    · rw [← Decimal.truncated_eq]
      rfl

end Datum

namespace Value

theorem cast_integer {d : Datum} {x : ℚ} (h : d.denotes? = some x) (k : IntKind) :
    (datum d).cast (.integer k) = .ok (datum (.integer k (.wrapped k (towardZero x)))) := by
  rw [cast, Datum.cast_integer h]
  rfl

theorem cast_wrapped (j k : IntKind) (n : Bounded j) :
    (datum (.integer j n)).cast (.integer k) = .ok (datum (.integer k (.wrapped k n.toInt))) := by
  have h : (Datum.integer j n).denotes? = some (n.toInt : ℚ) := rfl
  rw [cast_integer h, towardZero_intCast]

/-- **A cast to an integer type is reduction modulo its width.**  The number that comes out is the one integer of the
type that is congruent to the integral part of what went in; a type in between that is at least as wide changes nothing;
and from a type of the same width the integer comes back as it was. -/
theorem cast_modular (d : Datum) (x : ℚ) (hx : d.denotes? = some x) (k : IntKind) :
    (∃ b : Bounded k, (datum d).cast (.integer k) = .ok (datum (.integer k b)) ∧
      ∀ n, n = b.toInt ↔ k.Spans n ∧ n ≡ towardZero x [ZMOD 2 ^ k.bits]) ∧
    (∀ j : IntKind, k.bits ≤ j.bits →
      ((datum d).cast (.integer j) >>= fun v => v.cast (.integer k)) = (datum d).cast (.integer k)) ∧
    ∀ (j : IntKind) (n : Bounded k), j.bits = k.bits →
      ((datum (.integer k n)).cast (.integer j) >>= fun v => v.cast (.integer k)) = .ok (datum (.integer k n)) := by
  have hdetour : ∀ j : IntKind, k.bits ≤ j.bits → ∀ e y, e.denotes? = some y →
      ((datum e).cast (.integer j) >>= fun v => v.cast (.integer k)) = (datum e).cast (.integer k) := by
    intro j hj e y hy
    rw [cast_integer hy, cast_integer hy]
    show (datum (.integer j (.wrapped j (towardZero y)))).cast (.integer k) = _
    rw [cast_wrapped, Bounded.wrapped_wrapped hj]
  refine ⟨⟨_, cast_integer hx k, fun n => Bounded.eq_wrapped_iff⟩, fun j hj => hdetour j hj d x hx, fun j n hj => ?_⟩
  rw [hdetour j hj.ge _ _ rfl, cast_wrapped, Bounded.wrapped_eq_self]

/-- A debt of a little more than three hundred. -/
def debt : Decimal := ⟨true, 3009, 1, by decide, by decide⟩

/-- Without its fraction the debt is `-300`.  As a byte that is `212`, be it cast at once or by way of sixteen bits. -/
theorem cast_modular_debt : (Datum.decimal debt).denotes? = some debt.toRat ∧
    (∃ b : Bounded .uint8, (datum (.decimal debt)).cast (.integer .uint8) = .ok (datum (.integer .uint8 b)) ∧
      b.toInt = 212) ∧
    ((datum (.decimal debt)).cast (.integer .int16) >>= fun v => v.cast (.integer .uint8)) =
      (datum (.decimal debt)).cast (.integer .uint8) := by
  have hx : (Datum.decimal debt).denotes? = some debt.toRat := rfl
  obtain ⟨⟨b, hb, hunique⟩, hdetour, -⟩ := cast_modular (.decimal debt) debt.toRat hx .uint8
  refine ⟨hx, ⟨b, hb, ((hunique 212).2 ⟨by decide, ?_⟩).symm⟩, hdetour .int16 (by decide)⟩
  rw [← Decimal.truncated_eq]
  decide

end Value

end RowBinding
