import RowBinding.Calendar.Text
import RowBinding.Proofs.WrittenNumbers
/-!
# Dates that are written and read

A date is written and read part by part: a reader takes the characters of its part and leaves what follows.  **A date of
any year reads back as itself** (`Date.read_text`).
-/
namespace RowBinding

open Text (Digits Solid padded)

namespace CalendarReader

variable {α β : Type} {reader : CalendarReader α} {next : α → CalendarReader β} {a : α} {b : β} {fault : CalendarFault}
  {cs ds rest : List Char}

/-! ## Readers one after another -/

/-- The reader takes these characters for a value, whatever follows them. -/
def Reads (reader : CalendarReader α) (cs : List Char) (a : α) : Prop := ∀ rest, reader.run (cs ++ rest) = .ok (a, rest)

theorem run_bind_of_ok (h : reader.run cs = .ok (a, rest)) : (reader >>= next).run cs = (next a).run rest := by
  rw [StateT.run_bind, h]
  rfl

theorem run_bind_of_error (h : reader.run cs = .error fault) : (reader >>= next).run cs = .error fault := by
  rw [StateT.run_bind, h]
  rfl

/-- What has been read of the front of a text is out of the way of the next reader. -/
theorem Reads.run_bind (h : Reads reader cs a) : (reader >>= next).run (cs ++ rest) = (next a).run rest :=
  run_bind_of_ok (h rest)

theorem Reads.bind (h : Reads reader cs a) (hnext : Reads (next a) ds b) : Reads (reader >>= next) (cs ++ ds) b := by
  intro rest
  rw [List.append_assoc, h.run_bind]
  exact hnext rest

theorem reads_pure (a : α) : Reads (pure a) [] a := fun _ => rfl

theorem Reads.run (h : Reads reader cs a) : reader.run cs = .ok (a, []) := by
  have := h []
  rwa [List.append_nil] at this

theorem run_ending : ending.run [] = .ok ((), []) := rfl

theorem run_inRange {part : CalendarPart} {a? : Option α} (h : a? = some a) :
    (inRange part a?).run cs = .ok (a, cs) := by
  rw [h]
  rfl

/-! ## Characters and digits -/

theorem reads_literal (c : Char) : Reads (literal c) [c] () := by
  intro rest
  show (if c = c then set rest else throw .literal : CalendarReader Unit).run (c :: rest) = .ok ((), rest)
  rw [if_pos rfl]
  rfl

theorem reads_taken (c : Char) : Reads (taken c) [c] true := by
  intro rest
  show (if c = c then do set rest; return true else return false : CalendarReader Bool).run (c :: rest) = .ok (true, rest)
  rw [if_pos rfl]
  rfl

theorem run_taken_of_ne {c d : Char} (h : d ≠ c) : (taken c).run (d :: rest) = .ok (false, d :: rest) := by
  show (if d = c then do set rest; return true else return false : CalendarReader Bool).run (d :: rest) = _
  rw [if_neg h]
  rfl

theorem run_digits_cons {part : CalendarPart} {count acc : Nat} {c : Char} (hc : c.isDigit = true) :
    (digits part (count + 1) acc).run (c :: cs) = (digits part count (acc * 10 + (c.toNat - '0'.toNat))).run cs := by
  rw [digits, run_bind_of_ok (rfl : (get : CalendarReader _).run (c :: cs) = .ok (c :: cs, c :: cs))]
  dsimp only
  rw [Text.digit?_of_isDigit hc]
  rfl

/-- **Digits are read as the number that they write.** -/
theorem reads_digits (part : CalendarPart) (hcs : Digits cs) (acc : Nat) :
    Reads (digits part cs.length acc) cs (Nat.ofDigitChars 10 cs acc) := by
  induction cs generalizing acc with
  | nil => exact reads_pure _
  | cons c cs ih =>
    intro rest
    rw [List.length_cons, List.cons_append, run_digits_cons (hcs c List.mem_cons_self), Nat.ofDigitChars_cons, Nat.mul_comm]
    exact ih (fun d hd => hcs d (List.mem_cons_of_mem c hd)) _ rest

/-- A number filled up to the width that is read is read as itself. -/
theorem reads_digits_padded (part : CalendarPart) {width n : Nat} (hwidth : 0 < width) (h : n < 10 ^ width) :
    Reads (digits part width 0) (padded width n).toList n := by
  have hread := reads_digits part (Text.digits_padded width n) 0
  rwa [Text.length_padded hwidth h, Text.ofDigitChars_padded] at hread

theorem reads_twoDigits (part : CalendarPart) {low high n : Nat} (h : low ≤ n ∧ n ≤ high) (hhigh : n < 10 ^ (2 : Nat)) :
    Reads (twoDigits part low high) (padded 2 n).toList n := by
  intro rest
  unfold twoDigits
  rw [(reads_digits_padded part (by decide) hhigh).run_bind, if_pos h]
  rfl

/-! ## Years and dates -/

theorem natAbs_year_lt {y : Int} (h : firstYear ≤ y ∧ y ≤ lastYear) : y.natAbs < 10 ^ (4 : Nat) := by
  simp only [firstYear, lastYear] at h
  omega

/-- The characters of a year. -/
def yearChars (y : Int) : List Char := (if y < 0 then ['-'] else []) ++ (padded 4 y.natAbs).toList

theorem reads_year {y : Int} (h : firstYear ≤ y ∧ y ≤ lastYear) : Reads year (yearChars y) y := by
  have hdigits := reads_digits_padded .year (by decide) (natAbs_year_lt h)
  intro rest
  unfold yearChars year
  split
  · rename_i hneg
    rw [List.append_assoc, (reads_taken '-').run_bind]
    simp only [ite_true]
    rw [run_bind_of_ok (rfl : (pure false : CalendarReader Bool).run _ = .ok (false, _)), hdigits.run_bind,
      Int.ofNat_natAbs_of_nonpos (Int.le_of_lt hneg), Int.neg_neg]
    rfl
  · rename_i hneg
    -- The text starts with a digit, so that the reader finds neither of the two signs.
    obtain ⟨c, cs, hcs⟩ : ∃ c cs, (padded 4 y.natAbs).toList = c :: cs :=
      List.exists_cons_of_ne_nil (Text.padded_ne_nil (by decide))
    have hc : c.isDigit = true := Text.digits_padded 4 y.natAbs c (hcs ▸ List.mem_cons_self)
    have hminus : c ≠ '-' := by rintro rfl; cases hc
    have hplus : c ≠ '+' := by rintro rfl; cases hc
    have hrest := hdigits rest
    rw [hcs, List.cons_append] at hrest
    rw [List.nil_append, hcs, List.cons_append, run_bind_of_ok (run_taken_of_ne hminus)]
    simp only [Bool.false_eq_true, ite_false]
    rw [run_bind_of_ok (run_taken_of_ne hplus), run_bind_of_ok hrest, Int.natAbs_of_nonneg (Int.not_lt.1 hneg)]
    rfl

end CalendarReader

namespace Date

open CalendarReader

variable (d : Date)

theorem toList_text : d.text.toList =
    yearChars d.year ++ (['-'] ++ ((padded 2 d.month).toList ++ (['-'] ++ ((padded 2 d.day).toList ++ [])))) := by
  unfold text yearChars
  split <;> simp

theorem month_lt : d.month < 10 ^ (2 : Nat) := by
  have := d.month_range
  omega

theorem day_le : d.day ≤ 31 := by
  have hlength : monthLength d.year d.month ≤ 31 := by
    unfold monthLength
    split <;> split <;> omega
  exact Nat.le_trans d.day_range.2 hlength

theorem reads_dateParts : Reads dateParts d.text.toList (d.year, d.month, d.day) := by
  have hday := d.day_le
  rw [toList_text]
  unfold dateParts
  exact (reads_year d.year_range).bind <| (reads_literal '-').bind <|
    (reads_twoDigits .month d.month_range d.month_lt).bind <| (reads_literal '-').bind <|
    (reads_twoDigits .day ⟨d.day_range.1, hday⟩ (by omega)).bind <| reads_pure _

theorem ofParts?_eq : ofParts? d.year d.month d.day = some d := dif_pos ⟨d.year_range, d.month_range, d.day_range⟩

theorem run_dateOf {cs : List Char} : (dateOf (d.year, d.month, d.day)).run cs = .ok (d, cs) := run_inRange d.ofParts?_eq

/-- **A date reads back as itself**, also one before the year zero. -/
theorem read_text : read d.text.toList = .ok d := by
  unfold read onText date
  rw [run_bind_of_ok d.reads_dateParts.run, run_bind_of_ok run_ending, run_dateOf]
  rfl

theorem text_ne_nil : d.text.toList ≠ [] := by
  rw [toList_text]
  simp

theorem solid_text : Solid d.text.toList := by
  have hdash : Solid ['-'] := Text.solid_cons rfl (List.forall_mem_nil _)
  have hyear : Solid (yearChars d.year) := by
    unfold yearChars
    split
    · exact Text.solid_append hdash (Text.digits_padded _ _).solid
    · exact Text.solid_append (List.forall_mem_nil _) (Text.digits_padded _ _).solid
  rw [toList_text]
  exact Text.solid_append hyear <| Text.solid_append hdash <| Text.solid_append (Text.digits_padded _ _).solid <|
    Text.solid_append hdash <| Text.solid_append (Text.digits_padded _ _).solid (List.forall_mem_nil _)

end Date

end RowBinding
