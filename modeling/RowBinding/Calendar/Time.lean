import RowBinding.Calendar.Date
/-!
# Times of day and points in time

A time of day has nanoseconds and no leap second.  A timestamp is a date with a time; one with an
offset also says how far its local time runs ahead of universal time, and two of these are equal
when they name the same instant.
-/
namespace RowBinding

/-- A time of day. -/
structure Time where
  hour : Nat
  minute : Nat
  second : Nat
  nanosecond : Nat
  hour_lt : hour < 24
  minute_lt : minute < 60
  second_lt : second < 60
  nanosecond_lt : nanosecond < 1000000000
  deriving DecidableEq

def secondsPerDay : Nat := 86400

namespace Time

/-- The time of these parts, if there is one. -/
def ofParts? (hour minute second nanosecond : Nat) : Option Time :=
  if h : hour < 24 ∧ minute < 60 ∧ second < 60 ∧ nanosecond < 1000000000 then
    some ⟨hour, minute, second, nanosecond, h.1, h.2.1, h.2.2.1, h.2.2.2⟩
  else none

def midnight : Time := ⟨0, 0, 0, 0, by decide, by decide, by decide, by decide⟩

/-- The seconds since midnight. -/
def secondOfDay (t : Time) : Nat := t.hour * 3600 + t.minute * 60 + t.second

/-- The time that many seconds after midnight, with the nanoseconds of another time. -/
def atSecond (seconds : Nat) (h : seconds < secondsPerDay) (t : Time) : Time :=
  ⟨seconds / 3600, seconds / 60 % 60, seconds % 60, t.nanosecond,
    by unfold secondsPerDay at h; omega, by omega, by omega, t.nanosecond_lt⟩

end Time

/-- A date with a time of day. -/
structure Timestamp where
  date : Date
  time : Time
  deriving DecidableEq

namespace Timestamp

/-- Moved by a number of seconds, if the calendar reaches that far. -/
def shift? (t : Timestamp) (seconds : Int) : Option Timestamp :=
  let total := t.time.secondOfDay + seconds
  have h : (total % (secondsPerDay : Int)).toNat < secondsPerDay := by
    unfold secondsPerDay; omega
  (t.date.addDays? (total / (secondsPerDay : Int))).map fun date =>
    ⟨date, Time.atSecond (total % (secondsPerDay : Int)).toNat h t.time⟩

/-- The seconds from the midnight before the calendar's day 1. -/
def seconds (t : Timestamp) : Int :=
  (t.date.dayNumber - 1) * secondsPerDay + t.time.secondOfDay

end Timestamp

/-- The largest offset from universal time: one second less than 26 hours. -/
def maxOffset : Int := 93599

/-- A local timestamp with its offset from universal time in seconds. -/
structure OffsetTimestamp where
  localTime : Timestamp
  offset : Int
  offset_range : -maxOffset ≤ offset ∧ offset ≤ maxOffset
  deriving DecidableEq

namespace OffsetTimestamp

/-- The timestamp of these parts, if the offset is in range. -/
def ofParts? (localTime : Timestamp) (offset : Int) : Option OffsetTimestamp :=
  if h : -maxOffset ≤ offset ∧ offset ≤ maxOffset then some ⟨localTime, offset, h⟩ else none

/-- A timestamp of universal time. -/
def ofUtc (t : Timestamp) : OffsetTimestamp := ⟨t, 0, by decide⟩

/-- The universal time, if the calendar reaches it. -/
def utc? (t : OffsetTimestamp) : Option Timestamp := t.localTime.shift? (-t.offset)

/-- The instant: its seconds of universal time, and its nanoseconds. -/
def instant (t : OffsetTimestamp) : Int × Nat :=
  (t.localTime.seconds - t.offset, t.localTime.time.nanosecond)

/-- Whether two timestamps name the same instant. -/
def sameInstant (s t : OffsetTimestamp) : Bool := s.instant == t.instant

end OffsetTimestamp

end RowBinding
