/-!
# Dates

A date is a day of the Gregorian calendar, extended to all the years from -9999 to 9999; the year
zero lies between -1 and 1.  Dates are counted by `Date.dayNumber`, and moving by a day is one more
or one less in that count: the calendar has no gaps.
-/
namespace RowBinding

/-- The first and the last year of the calendar. -/
def firstYear : Int := -9999
def lastYear : Int := 9999

/-- Every fourth year is a leap year, but of the full centuries only every fourth. -/
def isLeapYear (year : Int) : Bool := year % 4 == 0 && (year % 100 != 0 || year % 400 == 0)

/-- The number of days of a month. -/
def monthLength (year : Int) (month : Nat) : Nat :=
  if month = 2 then if isLeapYear year then 29 else 28
  else if month = 4 ∨ month = 6 ∨ month = 9 ∨ month = 11 then 30
  else 31

theorem one_le_monthLength (year : Int) (month : Nat) : 1 ≤ monthLength year month := by
  unfold monthLength
  split <;> split <;> omega

/-- A day of the calendar. -/
structure Date where
  year : Int
  month : Nat
  day : Nat
  year_range : firstYear ≤ year ∧ year ≤ lastYear
  month_range : 1 ≤ month ∧ month ≤ 12
  day_range : 1 ≤ day ∧ day ≤ monthLength year month
  deriving DecidableEq

namespace Date

/-- The date of these parts, if there is one. -/
def ofParts? (year : Int) (month day : Nat) : Option Date :=
  if h : (firstYear ≤ year ∧ year ≤ lastYear) ∧ (1 ≤ month ∧ month ≤ 12) ∧
      (1 ≤ day ∧ day ≤ monthLength year month) then
    some ⟨year, month, day, h.1, h.2.1, h.2.2⟩
  else none

/-- The first day of the year 1. -/
def origin : Date := ⟨1, 1, 1, by decide, by decide, by decide⟩

/-- The following day. -/
def next? (d : Date) : Option Date :=
  if d.day < monthLength d.year d.month then ofParts? d.year d.month (d.day + 1)
  else if d.month < 12 then ofParts? d.year (d.month + 1) 1
  else ofParts? (d.year + 1) 1 1

/-- The preceding day. -/
def prev? (d : Date) : Option Date :=
  if 1 < d.day then ofParts? d.year d.month (d.day - 1)
  else if 1 < d.month then ofParts? d.year (d.month - 1) (monthLength d.year (d.month - 1))
  else ofParts? (d.year - 1) 12 31

/-- `n` days later. -/
def later? : Nat → Date → Option Date
  | 0, d => some d
  | n + 1, d => d.next?.bind (later? n)

/-- `n` days earlier. -/
def earlier? : Nat → Date → Option Date
  | 0, d => some d
  | n + 1, d => d.prev?.bind (earlier? n)

/-- The date `n` days away, if the calendar reaches it. -/
def addDays? (d : Date) : Int → Option Date
  | .ofNat n => later? n d
  | .negSucc n => earlier? (n + 1) d

/-- The days from the first day of the year 1 to the first day of a year. -/
def daysBeforeYear (year : Int) : Int :=
  let y := year - 1
  365 * y + y / 4 - y / 100 + y / 400

-- The sum of no numbers is the zero of the numbers themselves.
attribute [local instance (high)] Zero.ofOfNat0 in
/-- The days of a year before one of its months. -/
def daysBeforeMonth (year : Int) (month : Nat) : Nat :=
  ((List.range (month - 1)).map fun i => monthLength year (i + 1)).sum

/-- The number of the day, counted from the first day of the year 1 as day 1. -/
def dayNumber (d : Date) : Int :=
  daysBeforeYear d.year + daysBeforeMonth d.year d.month + d.day

/-- Whether the date ends its month. -/
def isMonthEnd (d : Date) : Bool := d.day == monthLength d.year d.month

end Date

end RowBinding
