import RowBinding.Proofs.TextColumns
/-!
# Times that are written and read

A time is written with the hour as it is and read with two digits of it.  **So a time comes back from its text from ten
o'clock on, and before that is not read at all; with an offset it is never read** (`Value.convert_times`): the offset is
written after a blank and with seconds, and is read without either.
-/
namespace RowBinding

open Text (Digits Solid padded)

/-! ## Fractions of a second -/

/-- The digits of a fraction of a second lack only zeros at the end. -/
theorem fractionText_append_replicate (n : Nat) :
    (fractionText n).toList ≠ [] ∧
      ∃ k, (padded 9 n).toList = (fractionText n).toList ++ List.replicate k '0' := by
  obtain ⟨c, cs, hcs⟩ : ∃ c cs, (padded 9 n).toList = c :: cs :=
    List.exists_cons_of_ne_nil (Text.padded_ne_nil (by decide))
  -- The first digit stays in any case; of the others the zeros at the end are left out.
  have htext : (fractionText n).toList = c :: (cs.reverse.dropWhile (· == '0')).reverse := by
    rw [fractionText, String.toList_ofList, hcs]
    rfl
  have hzeros : cs.reverse.takeWhile (· == '0') =
      List.replicate (cs.reverse.takeWhile (· == '0')).length '0' := by
    refine List.eq_replicate_of_mem fun d hd => ?_
    exact eq_of_beq (List.all_eq_true.1 List.all_takeWhile d hd)
  refine ⟨htext ▸ List.cons_ne_nil _ _, (cs.reverse.takeWhile (· == '0')).length, ?_⟩
  have hsplit : cs = (cs.reverse.dropWhile (· == '0')).reverse ++ (cs.reverse.takeWhile (· == '0')).reverse := by
    rw [← List.reverse_append, List.takeWhile_append_dropWhile, List.reverse_reverse]
  rw [hzeros, List.reverse_replicate] at hsplit
  rw [hcs, htext, List.cons_append, ← hsplit]

theorem digits_fractionText (n : Nat) : Digits (fractionText n).toList := by
  obtain ⟨-, k, hk⟩ := fractionText_append_replicate n
  intro c hc
  exact Text.digits_padded 9 n c (hk ▸ List.mem_append_left _ hc)

/-- Filled up with zeros to nine places they are the nanoseconds. -/
theorem fractionText_filled {n : Nat} (h : n < 1000000000) : (fractionText n).toList.length ≤ 9 ∧
    (padded 9 n).toList = (fractionText n).toList ++ List.replicate (9 - (fractionText n).toList.length) '0' := by
  obtain ⟨-, k, hk⟩ := fractionText_append_replicate n
  have hlength := congrArg List.length hk
  rw [Text.length_padded (by decide) h, List.length_append, List.length_replicate] at hlength
  have hplaces : 9 - (fractionText n).toList.length = k := by omega
  refine ⟨by omega, ?_⟩
  rw [hplaces, hk]

namespace CalendarReader

variable {cs ds rest : List Char}

theorem foldl_digits (hds : Digits ds) (acc : Nat) :
    ds.foldl (fun n c => n * 10 + (Text.digit? c).getD 0) acc = Nat.ofDigitChars 10 ds acc := by
  induction ds generalizing acc with
  | nil => exact (Nat.ofDigitChars_nil ..).symm
  | cons c ds ih =>
    rw [List.foldl_cons, Nat.ofDigitChars_cons, Nat.mul_comm 10, ih fun d hd => hds d (List.mem_cons_of_mem c hd),
      Text.digit?_of_isDigit (hds c List.mem_cons_self)]
    rfl

/-- **The digits of a fraction mean its nanoseconds again.** -/
theorem nanoseconds_fractionText {n : Nat} (h : n < 1000000000) : nanoseconds (fractionText n).toList = n := by
  obtain ⟨hlength, hfilled⟩ := fractionText_filled h
  rw [nanoseconds, List.take_of_length_le hlength, foldl_digits (digits_fractionText n), Nat.mul_comm,
    ← Nat.ofDigitChars_replicate_zero, ← Nat.ofDigitChars_append, ← hfilled, Text.ofDigitChars_padded]

/-- No digit stands at the front. -/
def NoDigitFirst (rest : List Char) : Prop := ∀ c, rest.head? = some c → c.isDigit = false

theorem noDigitFirst_nil : NoDigitFirst [] := fun _ h => nomatch h

theorem noDigitFirst_cons {c : Char} (h : c.isDigit = false) : NoDigitFirst (c :: rest) := by
  rintro d hd
  obtain rfl := Option.some.inj hd
  exact h

theorem NoDigitFirst.take (h : NoDigitFirst rest) (n : Nat) : NoDigitFirst (rest.take n) := by
  intro c hc
  rw [List.head?_take] at hc
  split at hc
  · cases hc
  · exact h c hc

theorem NoDigitFirst.takeWhile (h : NoDigitFirst rest) : rest.takeWhile (fun c => (Text.digit? c).isSome) = [] := by
  cases rest with
  | nil => rfl
  | cons c rest =>
    rw [List.takeWhile_cons_of_neg]
    rw [Text.isSome_digit?, h c rfl]
    exact Bool.false_ne_true

/-- The digits at the front are read up to the first other character. -/
theorem run_leadingDigits (limit : Nat) (hds : Digits ds) (hlimit : ds.length ≤ limit) (hrest : NoDigitFirst rest) :
    (leadingDigits limit).run (ds ++ rest) = .ok (ds, rest) := by
  have hfront : ((ds ++ rest).take limit).takeWhile (fun c => (Text.digit? c).isSome) = ds := by
    rw [List.take_append, List.take_of_length_le hlimit, List.takeWhile_append_of_pos, (hrest.take _).takeWhile,
      List.append_nil]
    intro c hc
    rw [Text.isSome_digit?, hds c hc]
  show Except.ok (((ds ++ rest).take limit).takeWhile (fun c => (Text.digit? c).isSome),
    (ds ++ rest).drop (((ds ++ rest).take limit).takeWhile (fun c => (Text.digit? c).isSome)).length) = _
  rw [hfront, List.drop_left]

theorem run_optionalFraction {n : Nat} (h : n < 1000000000) (hrest : NoDigitFirst rest) :
    optionalFraction.run (['.'] ++ ((fractionText n).toList ++ rest)) = .ok (n, rest) := by
  obtain ⟨c, cs, hcs⟩ := List.exists_cons_of_ne_nil (fractionText_append_replicate n).1
  have hc : (Text.digit? c).isSome = true := by
    rw [Text.isSome_digit?, digits_fractionText n c (hcs ▸ List.mem_cons_self)]
  have hread : (leadingDigits fractionLimit).run (c :: cs ++ rest) = .ok (c :: cs, rest) := by
    rw [← hcs]
    exact run_leadingDigits _ (digits_fractionText n) (Nat.le_trans (fractionText_filled h).1 (by decide)) hrest
  rw [hcs]
  show (if (Text.digit? c).isSome then do
      set (c :: cs ++ rest); return nanoseconds (← leadingDigits fractionLimit)
    else return 0 : CalendarReader Nat).run ('.' :: (c :: cs ++ rest)) = _
  rw [if_pos hc, run_bind_of_ok (rfl : (set (c :: cs ++ rest) : CalendarReader Unit).run _ = .ok ((), _)),
    run_bind_of_ok hread, ← hcs, nanoseconds_fractionText h]
  rfl

theorem run_fraction {n : Nat} (h : n < 1000000000) (hrest : NoDigitFirst rest) :
    fraction.run (['.'] ++ ((fractionText n).toList ++ rest)) = .ok (n, rest) := by
  have hne : (fractionText n).toList.isEmpty = false := List.isEmpty_eq_false_iff.2 (fractionText_append_replicate n).1
  have hread := run_leadingDigits ((fractionText n).toList ++ rest).length (digits_fractionText n)
    (by rw [List.length_append]; omega) hrest
  unfold fraction
  rw [(reads_taken '.').run_bind]
  simp only [ite_true]
  rw [run_bind_of_ok (rfl : (get : CalendarReader _).run _ = .ok (_, _)), run_bind_of_ok hread, hne,
    nanoseconds_fractionText h]
  rfl

/-- Too few digits are a fault of the part that lacks them. -/
theorem run_digits_of_noDigit {part : CalendarPart} {count acc : Nat} (hrest : NoDigitFirst rest) :
    (digits part (count + 1) acc).run rest = .error (.component part) := by
  cases rest with
  | nil => rfl
  | cons c rest =>
    have hc : Text.digit? c = none := by
      rw [Text.digit?_eq, hrest c rfl]
      rfl
    rw [digits, run_bind_of_ok (rfl : (get : CalendarReader _).run (c :: rest) = .ok (c :: rest, c :: rest))]
    dsimp only
    rw [hc]
    rfl

theorem run_digits_of_few {part : CalendarPart} {count acc : Nat} (hds : Digits ds) (hcount : ds.length < count)
    (hrest : NoDigitFirst rest) : (digits part count acc).run (ds ++ rest) = .error (.component part) := by
  induction ds generalizing count acc with
  | nil =>
    obtain ⟨count, rfl⟩ := Nat.exists_eq_succ_of_ne_zero (Nat.ne_of_gt hcount)
    exact run_digits_of_noDigit hrest
  | cons c ds ih =>
    obtain ⟨count, rfl⟩ := Nat.exists_eq_succ_of_ne_zero (Nat.ne_of_gt (Nat.zero_lt_of_lt hcount))
    rw [List.cons_append, run_digits_cons (hds c List.mem_cons_self)]
    exact ih (fun d hd => hds d (List.mem_cons_of_mem c hd)) (Nat.lt_of_succ_lt_succ hcount)

end CalendarReader

namespace Time

open CalendarReader

variable (t : Time)

theorem toList_text : t.text.toList = (padded 1 t.hour).toList ++ ([':'] ++ ((padded 2 t.minute).toList ++
    ([':'] ++ ((padded 2 t.second).toList ++ (['.'] ++ (fractionText t.nanosecond).toList))))) := by
  unfold text
  simp

theorem run_digits_of_lt (h : t.hour < 10) (rest : List Char) :
    (digits .hour 2 0).run (t.text.toList ++ rest) = .error (.component .hour) := by
  have hlength : (padded 1 t.hour).toList.length = 1 := Text.length_padded (by decide) h
  rw [toList_text, List.append_assoc]
  exact run_digits_of_few (Text.digits_padded 1 t.hour) (by omega) (noDigitFirst_cons rfl)

/-- **A time is read part by part from ten o'clock on**: then its hour has two digits. -/
theorem run_timeParts : timeParts.run t.text.toList =
    if 10 ≤ t.hour then .ok ((t.hour, t.minute, t.second, t.nanosecond), []) else .error (.component .hour) := by
  have hhour := t.hour_lt
  have hminute := t.minute_lt
  have hsecond := t.second_lt
  have hfraction := run_optionalFraction t.nanosecond_lt noDigitFirst_nil
  unfold timeParts
  split
  · rename_i hten
    rw [List.append_nil] at hfraction
    rw [toList_text, ← Text.padded_succ (Nat.le_refl 1) hten, (reads_twoDigits .hour (by omega) (by omega)).run_bind,
      (reads_literal ':').run_bind, (reads_twoDigits .minute (by omega) (by omega)).run_bind,
      (reads_literal ':').run_bind, (reads_twoDigits .second (by omega) (by omega)).run_bind, run_bind_of_ok hfraction]
    rfl
  · rename_i hten
    have hfault := t.run_digits_of_lt (Nat.not_le.1 hten) []
    rw [List.append_nil] at hfault
    exact run_bind_of_error (run_bind_of_error hfault)

theorem run_timeOf {cs : List Char} : (timeOf (t.hour, t.minute, t.second, t.nanosecond)).run cs = .ok (t, cs) :=
  run_inRange (dif_pos ⟨t.hour_lt, t.minute_lt, t.second_lt, t.nanosecond_lt⟩)

theorem read_text : read t.text.toList = if 10 ≤ t.hour then .ok t else .error (.component .hour) := by
  have hparts := t.run_timeParts
  unfold read onText time
  split at hparts
  · rename_i hten
    rw [run_bind_of_ok hparts, run_bind_of_ok run_ending, run_timeOf, if_pos hten]
    rfl
  · rename_i hten
    rw [run_bind_of_error hparts, if_neg hten]
    rfl

theorem text_ne_nil : t.text.toList ≠ [] := by
  rw [toList_text]
  simp

theorem solid_text : Solid t.text.toList := by
  have hcolon : Solid [':'] := Text.solid_cons rfl (List.forall_mem_nil _)
  rw [toList_text]
  exact Text.solid_append (Text.digits_padded _ _).solid <| Text.solid_append hcolon <|
    Text.solid_append (Text.digits_padded _ _).solid <| Text.solid_append hcolon <|
    Text.solid_append (Text.digits_padded _ _).solid <| Text.solid_cons rfl (digits_fractionText _).solid

end Time

namespace Timestamp

open CalendarReader

variable (t : Timestamp)

theorem toList_text : t.text.toList = t.date.text.toList ++ ([' '] ++ t.time.text.toList) := by
  unfold text
  simp

theorem read_text : read t.text.toList = if 10 ≤ t.time.hour then .ok t else .error (.component .hour) := by
  have hparts := t.time.run_timeParts
  unfold read onText timestamp
  rw [toList_text, t.date.reads_dateParts.run_bind, (reads_literal ' ').run_bind]
  split at hparts
  · rename_i hten
    rw [run_bind_of_ok hparts, run_bind_of_ok run_ending, run_bind_of_ok t.date.run_dateOf,
      run_bind_of_ok t.time.run_timeOf, if_pos hten]
    rfl
  · rename_i hten
    rw [run_bind_of_error hparts, if_neg hten]
    rfl

theorem trimmed_text : Text.trimmed t.text = t.text.toList := by
  rw [Text.trimmed, toList_text]
  exact Text.trim_between t.date.solid_text t.time.solid_text t.date.text_ne_nil t.time.text_ne_nil _

end Timestamp

namespace CalendarReader

theorem reads_anyByte {c : Char} (h : c.utf8Size = 1) : Reads anyByte [c] () := by
  intro rest
  show (if c.utf8Size = 1 then set rest else throw (.component .hour) : CalendarReader Unit).run (c :: rest) = .ok ((), rest)
  rw [if_pos h]
  rfl

theorem run_offset_of_blank {rest : List Char} : offset.run ([' '] ++ rest) = .error (.component .offsetHour) := rfl

end CalendarReader

theorem toList_offsetText (offset : Int) : (offsetText offset).toList =
    [if offset < 0 then '-' else '+'] ++ ((padded 2 (offset.natAbs / 3600)).toList ++ ([':'] ++
      ((padded 2 (offset.natAbs / 60 % 60)).toList ++ ([':'] ++ (padded 2 (offset.natAbs % 60)).toList)))) := by
  unfold offsetText
  split <;> simp

theorem solid_offsetText (offset : Int) : Solid (offsetText offset).toList := by
  have hcolon : Solid [':'] := Text.solid_cons rfl (List.forall_mem_nil _)
  have hsign : Solid [if offset < 0 then '-' else '+'] := by
    split <;> exact Text.solid_cons rfl (List.forall_mem_nil _)
  rw [toList_offsetText]
  exact Text.solid_append hsign <| Text.solid_append (Text.digits_padded _ _).solid <| Text.solid_append hcolon <|
    Text.solid_append (Text.digits_padded _ _).solid <| Text.solid_append hcolon (Text.digits_padded _ _).solid

namespace OffsetTimestamp

open CalendarReader

variable (t : OffsetTimestamp)

theorem toList_text : t.text.toList = t.localTime.date.text.toList ++
    ([' '] ++ (t.localTime.time.text.toList ++ ([' '] ++ (offsetText t.offset).toList))) := by
  have htext : t.text.toList = t.localTime.text.toList ++ ([' '] ++ (offsetText t.offset).toList) := by
    unfold text
    simp
  rw [htext, Timestamp.toList_text, List.append_assoc, List.append_assoc]

theorem trimmed_text : Text.trimmed t.text = t.text.toList := by
  have hoffset : (offsetText t.offset).toList ≠ [] := by
    rw [toList_offsetText]
    simp
  have hends : t.text.toList = t.localTime.date.text.toList ++
      ((' ' :: t.localTime.time.text.toList ++ [' ']) ++ (offsetText t.offset).toList) := by
    rw [toList_text]
    simp
  rw [Text.trimmed, hends]
  exact Text.trim_between t.localTime.date.solid_text (solid_offsetText _) t.localTime.date.text_ne_nil hoffset _

/-- The part at which the reader stops in the text of a timestamp with an offset. -/
def unreadPart : CalendarPart :=
  if t.localTime.date.year < 0 then .year else if 10 ≤ t.localTime.time.hour then .offsetHour else .hour

/-- **A timestamp with an offset is never read from its text.** -/
theorem read_text : read t.text.toList = .error (.component t.unreadPart) := by
  have hmonth := t.localTime.date.month_range
  have hday := t.localTime.date.day_le
  have hminute := t.localTime.time.minute_lt
  have hsecond := t.localTime.time.second_lt
  have hhour := t.localTime.time.hour_lt
  have hblank : NoDigitFirst ([' '] ++ (offsetText t.offset).toList) := noDigitFirst_cons rfl
  unfold read onText offsetTimestamp unreadPart
  simp only [toList_text, Date.toList_text, yearChars, List.append_assoc, List.nil_append]
  split
  -- A year has no sign here.  After it the hour decides: one digit of it is at fault, with two the reader comes as far
  -- as the blank before the offset.
  · have hminus : ∀ rest, NoDigitFirst (['-'] ++ rest) := fun _ => noDigitFirst_cons rfl
    rw [run_bind_of_error (run_digits_of_noDigit (hminus _))]
    rfl
  · rw [List.nil_append, (reads_digits_padded .year (by decide) (natAbs_year_lt t.localTime.date.year_range)).run_bind,
      (reads_literal '-').run_bind, (reads_twoDigits .month (by omega) (by omega)).run_bind, (reads_literal '-').run_bind,
      (reads_digits_padded .day (by decide) (by omega)).run_bind, (reads_anyByte rfl).run_bind]
    by_cases hten : 10 ≤ t.localTime.time.hour
    · simp only [Time.toList_text, ← Text.padded_succ (Nat.le_refl 1) hten, List.append_assoc]
      rw [if_pos hten, (reads_digits_padded .hour (by decide) (by omega)).run_bind, (reads_literal ':').run_bind,
        (reads_digits_padded .minute (by decide) (by omega)).run_bind, (reads_literal ':').run_bind,
        (reads_digits_padded .second (by decide) (by omega)).run_bind,
        run_bind_of_ok (run_fraction t.localTime.time.nanosecond_lt hblank),
        run_bind_of_error run_offset_of_blank]
      rfl
    · rw [if_neg hten, run_bind_of_error (t.localTime.time.run_digits_of_lt (Nat.not_le.1 hten) _)]
      rfl

end OffsetTimestamp

namespace Datum

/-- The hour that a time is written with. -/
def hour? : Datum → Option Nat
  | time t => some t.hour
  | timestamp t => some t.time.hour
  | offsetTimestamp t => some t.localTime.time.hour
  | _ => none

/-- The part at which the reader stops in the text of a time that it cannot read. -/
def unreadPart : Datum → CalendarPart
  | offsetTimestamp t => t.unreadPart
  | _ => .hour

theorem read_hour {d : Datum} {hour : Nat} (h : d.hour? = some hour) : read d.text d.type =
    if 10 ≤ hour ∧ d.type ≠ .offsetTimestamp then .ok d
    else .error (.unreadable d.text d.type (some (.calendar (.component d.unreadPart)))) := by
  cases d with
  | time t =>
    obtain rfl := Option.some.inj h
    have hplain : (time t).type ≠ .offsetTimestamp := fun htype => by cases htype
    simp only [and_iff_left hplain]
    simp only [read, text, type, Text.trimmed, t.solid_text.trim_eq, t.read_text]
    split <;> rfl
  | timestamp t =>
    obtain rfl := Option.some.inj h
    have hplain : (timestamp t).type ≠ .offsetTimestamp := fun htype => by cases htype
    simp only [and_iff_left hplain]
    simp only [read, text, type, t.trimmed_text, t.read_text]
    split <;> rfl
  | offsetTimestamp t =>
    rw [if_neg fun hboth => hboth.2 rfl]
    simp only [read, text, type, t.trimmed_text, t.read_text]
    rfl
  | _ => cases h

theorem ne_varchar_of_hour? {d : Datum} {hour : Nat} (h : d.hour? = some hour) : d.type ≠ .varchar := by
  cases d with
  | varchar s => cases h
  | _ => nofun

end Datum

namespace Value

/-- **Times come back from their text from ten o'clock on, and with an offset never.**  Every time becomes text.  Before
ten o'clock the text has one digit of the hour, and reading wants two; the offset is written after a blank and with its
seconds, where reading wants it right after the time and without.  What does not come back is refused. -/
theorem convert_times (d : Datum) (hour : Nat) (h : d.hour? = some hour) :
    ∃ s, (datum d).convert .varchar = .ok (varchar s) ∧
      ((varchar s).convert d.type = .ok (datum d) ↔ 10 ≤ hour ∧ d.type ≠ .offsetTimestamp) ∧
      (¬ (10 ≤ hour ∧ d.type ≠ .offsetTimestamp) → (varchar s).convert d.type =
        .error (.value (.unreadable s d.type (some (.calendar (.component d.unreadPart)))))) := by
  refine ⟨d.text, convert_varchar d, ?_⟩
  rw [convert_ofText (Datum.ne_varchar_of_hour? h), Datum.read_hour h]
  split
  · rename_i hread
    exact ⟨iff_of_true rfl hread, fun hnot => absurd hread hnot⟩
  · rename_i hunread
    exact ⟨iff_of_false nofun hunread, fun _ => rfl⟩

/-- A time in the afternoon, with six hundredths of a second. -/
def late : Time := ⟨13, 4, 5, 60000000, by decide, by decide, by decide, by decide⟩

/-- The time comes back from its text. -/
theorem convert_late : (Datum.time late).hour? = some 13 ∧
    (datum (.time late)).convert .varchar = .ok (varchar "13:04:05.06") ∧
    (varchar "13:04:05.06").convert .time = .ok (datum (.time late)) := by
  have htext : (datum (.time late)).convert .varchar = .ok (varchar "13:04:05.06") := rfl
  obtain ⟨s, hs, hback, -⟩ := convert_times (.time late) 13 rfl
  obtain rfl := Datum.varchar.inj (datum.inj (Except.ok.inj (htext.symm.trans hs)))
  exact ⟨rfl, htext, hback.2 ⟨by decide, nofun⟩⟩

/-- A time in the morning, with half a second. -/
def early : Time := ⟨3, 4, 5, 500000000, by decide, by decide, by decide, by decide⟩

/-- The time is sent as text, and cannot be read from there. -/
theorem convert_early : (datum (.time early)).convert .varchar = .ok (varchar "3:04:05.5") ∧
    (varchar "3:04:05.5").convert .time =
      .error (.value (.unreadable "3:04:05.5" .time (some (.calendar (.component .hour))))) := by
  have hread : Datum.read "3:04:05.5" .time = _ := Datum.read_hour (d := .time early) rfl
  refine ⟨rfl, ?_⟩
  rw [convert_ofText (t := .time) nofun, hread]
  rfl

end Value

end RowBinding
