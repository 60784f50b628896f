import RowBinding.Calendar.Date
/-!
# Day numbers

`Date.dayNumber` counts the days of the calendar.  **No two dates have the same number, and moving a date by days adds
them to its number, as long as the calendar reaches** (`Date.addDays?_eq_some_iff`): the ends of months, leap days and
the turns of years, those before the year zero included, leave no gap.
-/
namespace RowBinding
namespace Date

/-! ## Years and months -/

theorem daysBeforeYear_succ (year : Int) :
    daysBeforeYear (year + 1) = daysBeforeYear year + 365 + if isLeapYear year then 1 else 0 := by
  unfold daysBeforeYear isLeapYear
  by_cases h4 : year % 4 = 0 <;> by_cases h100 : year % 100 = 0 <;> by_cases h400 : year % 400 = 0 <;>
    simp [h4, h100, h400] <;> omega

theorem daysBeforeYear_le {y z : Int} (h : y ≤ z) : daysBeforeYear y ≤ daysBeforeYear z := by
  simp only [daysBeforeYear]
  omega

theorem daysBeforeMonth_succ (year : Int) {month : Nat} (h : 1 ≤ month) :
    daysBeforeMonth year (month + 1) = daysBeforeMonth year month + monthLength year month := by
  obtain ⟨m, rfl⟩ : ∃ m, month = m + 1 := ⟨month - 1, by omega⟩
  unfold daysBeforeMonth
  simp only [Nat.add_sub_cancel]
  rw [List.range_succ, List.map_append, List.sum_append]
  simp

theorem daysBeforeMonth_le (year : Int) {m n : Nat} (hm : 1 ≤ m) (h : m ≤ n) :
    daysBeforeMonth year m ≤ daysBeforeMonth year n := by
  induction h with
  | refl => exact Nat.le_refl _
  | step hn ih =>
    rw [daysBeforeMonth_succ year (Nat.le_trans hm hn)]
    omega

theorem daysBeforeMonth_january (year : Int) : daysBeforeMonth year 1 = 0 := rfl

/-- The twelve months make the year. -/
theorem daysBeforeYear_add_months (year : Int) :
    daysBeforeYear year + daysBeforeMonth year 13 = daysBeforeYear (year + 1) := by
  have hmonths : (daysBeforeMonth year 13 : Int) = 365 + if isLeapYear year then 1 else 0 := by
    unfold daysBeforeMonth
    cases h : isLeapYear year <;> simp [List.range_succ, monthLength, h]
  rw [daysBeforeYear_succ, hmonths]
  omega

/-- The last day of December is the last before the next year. -/
theorem daysBeforeYear_add_december (year : Int) :
    daysBeforeYear year + daysBeforeMonth year 12 + 31 = daysBeforeYear (year + 1) := by
  have hdecember : daysBeforeMonth year 13 = daysBeforeMonth year 12 + 31 := daysBeforeMonth_succ year (by decide)
  have hmonths := daysBeforeYear_add_months year
  omega

/-! ## The number of a date -/

/-- The numbers of the first and the last day of the calendar. -/
def firstDay : Int := daysBeforeYear firstYear + 1
def lastDay : Int := daysBeforeYear (lastYear + 1)

variable {d e : Date}

theorem day_le_months (d : Date) : daysBeforeMonth d.year d.month + d.day ≤ daysBeforeMonth d.year (d.month + 1) := by
  rw [daysBeforeMonth_succ d.year d.month_range.1]
  have := d.day_range
  omega

theorem dayNumber_range (d : Date) :
    daysBeforeYear d.year < d.dayNumber ∧ d.dayNumber ≤ daysBeforeYear (d.year + 1) := by
  have hyear := daysBeforeYear_add_months d.year
  have hmonths : daysBeforeMonth d.year (d.month + 1) ≤ daysBeforeMonth d.year 13 :=
    daysBeforeMonth_le d.year (Nat.le_add_left 1 d.month) (Nat.succ_le_succ d.month_range.2)
  have hmonth := d.day_le_months
  have hday := d.day_range
  unfold dayNumber
  omega

theorem dayNumber_bounds (d : Date) : firstDay ≤ d.dayNumber ∧ d.dayNumber ≤ lastDay := by
  have hnumber := d.dayNumber_range
  have hfirst := daysBeforeYear_le d.year_range.1
  have hlast := daysBeforeYear_le (Int.add_le_add_right d.year_range.2 1)
  unfold firstDay lastDay
  omega

theorem year_le_of_dayNumber_le (h : d.dayNumber ≤ e.dayNumber) : d.year ≤ e.year := by
  have hd := d.dayNumber_range
  have he := e.dayNumber_range
  refine Int.not_lt.1 fun hlt => ?_
  have hyears := daysBeforeYear_le (Int.add_one_le_of_lt hlt)
  omega

theorem month_le_of_dayNumber_le (hyear : d.year = e.year) (h : d.dayNumber ≤ e.dayNumber) : d.month ≤ e.month := by
  have hd := d.day_range
  have he := e.day_le_months
  refine Nat.not_lt.1 fun hlt => ?_
  have hmonths := daysBeforeMonth_le e.year (Nat.le_add_left 1 e.month) hlt
  unfold dayNumber at h
  rw [hyear] at h
  omega

/-- **No two dates have the same number.** -/
theorem eq_of_dayNumber (h : d.dayNumber = e.dayNumber) : d = e := by
  have hyear : d.year = e.year :=
    Int.le_antisymm (year_le_of_dayNumber_le (Int.le_of_eq h)) (year_le_of_dayNumber_le (Int.le_of_eq h.symm))
  have hmonth : d.month = e.month :=
    Nat.le_antisymm (month_le_of_dayNumber_le hyear (Int.le_of_eq h))
      (month_le_of_dayNumber_le hyear.symm (Int.le_of_eq h.symm))
  have hday : d.day = e.day := by
    unfold dayNumber at h
    rw [hyear, hmonth] at h
    omega
  obtain ⟨year, month, day, _, _, _⟩ := d
  obtain ⟨_, _, _, _, _, _⟩ := e
  subst hyear hmonth hday
  rfl

/-! ## From one day to another -/

theorem exists_ofParts? {year : Int} {month day : Nat} (hyear : firstYear ≤ year ∧ year ≤ lastYear)
    (hmonth : 1 ≤ month ∧ month ≤ 12) (hday : 1 ≤ day ∧ day ≤ monthLength year month) :
    ∃ d, ofParts? year month day = some d ∧
      d.dayNumber = daysBeforeYear year + daysBeforeMonth year month + day :=
  ⟨⟨year, month, day, hyear, hmonth, hday⟩, dif_pos ⟨hyear, hmonth, hday⟩, rfl⟩

/-- A day is followed by the one with the next number, unless it is the last of all. -/
theorem next?_cases (d : Date) :
    (∃ e, d.next? = some e ∧ e.dayNumber = d.dayNumber + 1) ∨ d.next? = none ∧ d.dayNumber = lastDay := by
  have hyear := d.year_range
  have hmonth := d.month_range
  have hday := d.day_range
  unfold next?
  by_cases hinside : d.day < monthLength d.year d.month
  · rw [if_pos hinside]
    obtain ⟨e, he, hnumber⟩ := exists_ofParts? hyear hmonth ⟨Nat.le_add_left 1 d.day, hinside⟩
    refine .inl ⟨e, he, ?_⟩
    unfold dayNumber at *
    omega
  · rw [if_neg hinside]
    have hlength : d.day = monthLength d.year d.month := by omega
    have hend := daysBeforeMonth_succ d.year hmonth.1
    by_cases hdecember : d.month < 12
    · rw [if_pos hdecember]
      obtain ⟨e, he, hnumber⟩ :=
        exists_ofParts? hyear ⟨Nat.le_add_left 1 d.month, hdecember⟩ ⟨Nat.le_refl 1, one_le_monthLength _ _⟩
      refine .inl ⟨e, he, ?_⟩
      unfold dayNumber at *
      omega
    · rw [if_neg hdecember]
      have hturn : d.dayNumber = daysBeforeYear (d.year + 1) := by
        have hdecember := daysBeforeYear_add_december d.year
        have hmonth : d.month = 12 := by omega
        rw [hmonth] at hlength
        rw [dayNumber, hmonth, hlength, ← hdecember]
        rfl
      by_cases hlast : d.year = lastYear
      · refine .inr ⟨dif_neg fun h => ?_, by rw [hturn, hlast, lastDay]⟩
        have := h.1.2
        omega
      · have hnext : firstYear ≤ d.year + 1 ∧ d.year + 1 ≤ lastYear := by omega
        obtain ⟨e, he, hnumber⟩ :=
          exists_ofParts? hnext ⟨Nat.le_refl 1, by decide⟩ ⟨Nat.le_refl 1, one_le_monthLength _ _⟩
        refine .inl ⟨e, he, ?_⟩
        rw [hnumber, hturn, daysBeforeMonth_january]
        omega

/-- A day is preceded by the one with the number before, unless it is the first of all. -/
theorem prev?_cases (d : Date) :
    (∃ e, d.prev? = some e ∧ e.dayNumber = d.dayNumber - 1) ∨ d.prev? = none ∧ d.dayNumber = firstDay := by
  have hyear := d.year_range
  have hmonth := d.month_range
  have hday := d.day_range
  unfold prev?
  by_cases hinside : 1 < d.day
  · rw [if_pos hinside]
    have hbefore : 1 ≤ d.day - 1 ∧ d.day - 1 ≤ monthLength d.year d.month := by omega
    obtain ⟨e, he, hnumber⟩ := exists_ofParts? hyear hmonth hbefore
    refine .inl ⟨e, he, ?_⟩
    unfold dayNumber at *
    omega
  · rw [if_neg hinside]
    have hone : d.day = 1 := by omega
    by_cases hjanuary : 1 < d.month
    · rw [if_pos hjanuary]
      have hbefore : 1 ≤ d.month - 1 ∧ d.month - 1 ≤ 12 := by omega
      obtain ⟨e, he, hnumber⟩ := exists_ofParts? hyear hbefore ⟨one_le_monthLength _ _, Nat.le_refl _⟩
      have hend := daysBeforeMonth_succ d.year hbefore.1
      rw [Nat.sub_add_cancel hmonth.1] at hend
      refine .inl ⟨e, he, ?_⟩
      unfold dayNumber at *
      omega
    · rw [if_neg hjanuary]
      have hturn : d.dayNumber = daysBeforeYear d.year + 1 := by
        have hmonth : d.month = 1 := by omega
        rw [dayNumber, hone, hmonth, daysBeforeMonth_january]
        omega
      by_cases hfirst : d.year = firstYear
      · refine .inr ⟨dif_neg fun h => ?_, by rw [hturn, hfirst, firstDay]⟩
        have := h.1.1
        omega
      · have hdecember := daysBeforeYear_add_december (d.year - 1)
        rw [Int.sub_add_cancel] at hdecember
        have hbefore : firstYear ≤ d.year - 1 ∧ d.year - 1 ≤ lastYear := by omega
        obtain ⟨e, he, hnumber⟩ := exists_ofParts? hbefore ⟨by decide, Nat.le_refl 12⟩ ⟨by decide, Nat.le_refl 31⟩
        refine .inl ⟨e, he, ?_⟩
        omega

theorem later?_eq_some_iff {n : Nat} : later? n d = some e ↔ e.dayNumber = d.dayNumber + n := by
  induction n generalizing d with
  | zero =>
    simp only [later?, Option.some.injEq]
    constructor
    · rintro rfl
      simp
    · intro h
      exact eq_of_dayNumber (by omega)
  | succ n ih =>
    rcases d.next?_cases with ⟨next, hnext, hnumber⟩ | ⟨hnone, hlast⟩
    · rw [later?, hnext, Option.bind_some, ih, hnumber]
      omega
    · have hbounds := e.dayNumber_bounds
      rw [later?, hnone, Option.bind_none]
      refine iff_of_false nofun fun h => ?_
      omega

theorem earlier?_eq_some_iff {n : Nat} : earlier? n d = some e ↔ e.dayNumber = d.dayNumber - n := by
  induction n generalizing d with
  | zero =>
    simp only [earlier?, Option.some.injEq]
    constructor
    · rintro rfl
      simp
    · intro h
      exact eq_of_dayNumber (by omega)
  | succ n ih =>
    rcases d.prev?_cases with ⟨prev, hprev, hnumber⟩ | ⟨hnone, hfirst⟩
    · rw [earlier?, hprev, Option.bind_some, ih, hnumber]
      omega
    · have hbounds := e.dayNumber_bounds
      rw [earlier?, hnone, Option.bind_none]
      refine iff_of_false nofun fun h => ?_
      omega

/-- **The date some days away is the one whose number is so many more, or fewer.** -/
theorem addDays?_eq_some_iff {n : Int} : d.addDays? n = some e ↔ e.dayNumber = d.dayNumber + n := by
  cases n with
  | ofNat n => exact later?_eq_some_iff
  | negSucc n =>
    rw [addDays?, earlier?_eq_some_iff]
    omega

/-- **Every number from that of the first day to that of the last is the number of a date.** -/
theorem exists_dayNumber_iff {n : Int} : (∃ d : Date, d.dayNumber = n) ↔ firstDay ≤ n ∧ n ≤ lastDay := by
  constructor
  · rintro ⟨d, rfl⟩
    exact d.dayNumber_bounds
  · rintro ⟨hfirst, hlast⟩
    obtain ⟨k, rfl⟩ : ∃ k : Nat, n = firstDay + k := ⟨(n - firstDay).toNat, by omega⟩
    -- From the first day on, each day has its successor until the last.
    induction k with
    | zero => exact ⟨⟨firstYear, 1, 1, by decide, by decide, by decide⟩, by decide⟩
    | succ k ih =>
      obtain ⟨d, hd⟩ := ih (by omega) (by omega)
      rcases d.next?_cases with ⟨e, -, he⟩ | ⟨-, hend⟩
      · exact ⟨e, by omega⟩
      · omega

end Date
end RowBinding
