import RowBinding.Calendar.Time
import RowBinding.Number.Numeral
/-!
# Dates and times as text

Dates are written `2024-02-29`, times `3:04:05.0` with the hour not filled up and at least one
digit of the fraction, and an offset `+01:00:00` follows its local time.

Reading has fixed widths.  A component with missing digits, or with a value that no date or time
has, is a fault of its own; a combination of components that no calendar has is a fault of range,
and is found only when the whole text has been read.
-/
namespace RowBinding

/-- The components of a date or time. -/
inductive CalendarPart where
  | year | month | day | hour | minute | second | subsecond
  | dateSeparator | offsetHour | offsetMinute
  deriving DecidableEq, Repr

def CalendarPart.name : CalendarPart → String
  | .year => "year"
  | .month => "month"
  | .day => "day"
  | .hour => "hour"
  | .minute => "minute"
  | .second => "second"
  | .subsecond => "subsecond"
  | .dateSeparator => "separator"
  | .offsetHour => "offset hour"
  | .offsetMinute => "offset minute"

/-- Why a text is no date or time. -/
inductive CalendarFault where
  | component (part : CalendarPart)
  | literal
  | trailing
  | range (part : CalendarPart)
  deriving DecidableEq, Repr

namespace CalendarFault

def message : CalendarFault → String
  | component part => "the '" ++ part.name ++ "' component could not be parsed"
  | literal => "a character literal was not valid"
  | trailing => "unexpected trailing characters; the end of input was expected"
  | range part => part.name ++ " was not in range"

/-- A fault is reported by the reader and by what called it, a fault of range also by the check
that found it; each of them repeats the message. -/
def chain (fault : CalendarFault) : List String :=
  match fault with
  | range _ => [fault.message, fault.message, fault.message]
  | _ => [fault.message, fault.message]

end CalendarFault

/-! ## Writing -/

def Date.text (d : Date) : String :=
  (if d.year < 0 then "-" else "") ++ Text.padded 4 d.year.natAbs ++ "-" ++ Text.padded 2 d.month ++
    "-" ++ Text.padded 2 d.day

/-- The digits of a fraction of a second without the zeros at the end; the first digit stays. -/
def fractionText (nanosecond : Nat) : String :=
  let ds := (Text.padded 9 nanosecond).toList
  String.ofList (ds.take 1 ++ ((ds.drop 1).reverse.dropWhile (· == '0')).reverse)

def Time.text (t : Time) : String :=
  Text.padded 1 t.hour ++ ":" ++ Text.padded 2 t.minute ++ ":" ++ Text.padded 2 t.second ++ "." ++
    fractionText t.nanosecond

def Timestamp.text (t : Timestamp) : String := t.date.text ++ " " ++ t.time.text

/-- An offset as hours, minutes and seconds. -/
def offsetText (offset : Int) : String :=
  let n := offset.natAbs
  (if offset < 0 then "-" else "+") ++ Text.padded 2 (n / 3600) ++ ":" ++
    Text.padded 2 (n / 60 % 60) ++ ":" ++ Text.padded 2 (n % 60)

def OffsetTimestamp.text (t : OffsetTimestamp) : String :=
  t.localTime.text ++ " " ++ offsetText t.offset

/-! ## Reading components -/

/-- A reader of the front of a text. -/
abbrev CalendarReader := StateT (List Char) (Except CalendarFault)

namespace CalendarReader

/-- Exactly `count` digits. -/
def digits (part : CalendarPart) : (count : Nat) → (acc : Nat) → CalendarReader Nat
  | 0, acc => pure acc
  | count + 1, acc => do
    match ← get with
    | c :: cs =>
      match Text.digit? c with
      | some d =>
        set cs
        digits part count (acc * 10 + d)
      | none => throw (.component part)
    | [] => throw (.component part)

/-- Exactly two digits with a value from `low` to `high`. -/
def twoDigits (part : CalendarPart) (low high : Nat) : CalendarReader Nat := do
  let n ← digits part 2 0
  if low ≤ n ∧ n ≤ high then return n else throw (.component part)

/-- One given character. -/
def literal (expected : Char) : CalendarReader Unit := do
  match ← get with
  | c :: cs => if c = expected then set cs else throw .literal
  | [] => throw .literal

/-- Whether the next character is the given one; it is taken if so. -/
def taken (c : Char) : CalendarReader Bool := do
  match ← get with
  | d :: cs => if d = c then do set cs; return true else return false
  | [] => return false

/-- The nanoseconds that the digits of a fraction mean; those past the ninth mean nothing. -/
def nanoseconds (ds : List Char) : Nat :=
  (ds.take 9).foldl (fun n c => n * 10 + (Text.digit? c).getD 0) 0 * 10 ^ (9 - ds.length)

/-- The digits at the front, at most `limit` of them. -/
def leadingDigits (limit : Nat) : CalendarReader (List Char) := do
  let cs ← get
  let ds := (cs.take limit).takeWhile fun c => (Text.digit? c).isSome
  set (cs.drop ds.length)
  return ds

/-- A text must be read to its end. -/
def ending : CalendarReader Unit := do
  if (← get).isEmpty then return () else throw .trailing

/-- A value that must exist. -/
def inRange {α : Type} (part : CalendarPart) : Option α → CalendarReader α
  | some a => pure a
  | none => throw (.range part)

/-- Runs a reader on a whole text. -/
def onText {α : Type} (reader : CalendarReader α) (cs : List Char) : Except CalendarFault α :=
  (reader.run cs).map Prod.fst

/-! ## Dates and times without offset -/

/-- A year with an optional sign. -/
def year : CalendarReader Int := do
  let minus ← taken '-'
  let _ ← if minus then pure false else taken '+'
  let n ← digits .year 4 0
  return if minus then -(n : Int) else n

/-- `[year]-[month]-[day]` -/
def dateParts : CalendarReader (Int × Nat × Nat) := do
  let y ← year
  literal '-'
  let m ← twoDigits .month 1 12
  literal '-'
  let d ← twoDigits .day 1 31
  return (y, m, d)

/-- The most digits of a fraction that are read. -/
def fractionLimit : Nat := 32

/-- A point with digits after it; a point without them is not read. -/
def optionalFraction : CalendarReader Nat := do
  match ← get with
  | '.' :: c :: cs =>
    if (Text.digit? c).isSome then do
      set (c :: cs)
      return nanoseconds (← leadingDigits fractionLimit)
    else return 0
  | _ => return 0

/-- `[hour]:[minute]:[second]` and an optional fraction -/
def timeParts : CalendarReader (Nat × Nat × Nat × Nat) := do
  let h ← twoDigits .hour 0 23
  literal ':'
  let m ← twoDigits .minute 0 59
  literal ':'
  let s ← twoDigits .second 0 60
  return (h, m, s, ← optionalFraction)

def dateOf (parts : Int × Nat × Nat) : CalendarReader Date :=
  inRange .day (Date.ofParts? parts.1 parts.2.1 parts.2.2)

def timeOf (parts : Nat × Nat × Nat × Nat) : CalendarReader Time :=
  inRange .second (Time.ofParts? parts.1 parts.2.1 parts.2.2.1 parts.2.2.2)

def date : CalendarReader Date := do
  let parts ← dateParts
  ending
  dateOf parts

def time : CalendarReader Time := do
  let parts ← timeParts
  ending
  timeOf parts

def timestamp : CalendarReader Timestamp := do
  let d ← dateParts
  literal ' '
  let t ← timeParts
  ending
  return ⟨← dateOf d, ← timeOf t⟩

/-! ## Timestamps with offset

This is the format of Internet timestamps.  Its components are checked for their digits while they
are read and for their values afterwards, and any single byte may stand between date and time. -/

/-- The one byte between date and time. -/
def anyByte : CalendarReader Unit := do
  match ← get with
  | [] => throw (.component .dateSeparator)
  | c :: cs => if c.utf8Size = 1 then set cs else throw (.component .hour)

/-- A fraction that must have digits after its point. -/
def fraction : CalendarReader Nat := do
  if ← taken '.' then
    let ds ← leadingDigits (← get).length
    if ds.isEmpty then throw (.component .subsecond) else return nanoseconds ds
  else return 0

/-- `Z`, or a sign with hours and minutes; the offset in seconds. -/
def offset : CalendarReader Int := do
  match ← get with
  | c :: cs =>
    if c = 'Z' ∨ c = 'z' then do
      set cs
      return 0
    else if c = '+' ∨ c = '-' then do
      set cs
      let h ← twoDigits .offsetHour 0 23
      literal ':'
      let m ← digits .offsetMinute 2 0
      if m ≤ 59 then
        let seconds : Int := h * 3600 + m * 60
        return if c = '-' then -seconds else seconds
      else throw (.range .offsetMinute)
    else throw (.component .offsetHour)
  | [] => throw (.component .offsetHour)

/-- A leap second is written as second 60 and kept as the last nanosecond before it.  It must be
the end of a month in universal time. -/
def isLeapSecond (t : OffsetTimestamp) : Bool :=
  match t.utc? with
  | none => false
  | some u =>
    u.date.isMonthEnd && u.time.secondOfDay + 1 == secondsPerDay && u.time.nanosecond == 999999999

def offsetTimestamp : CalendarReader OffsetTimestamp := do
  let y ← digits .year 4 0
  literal '-'
  let mo ← twoDigits .month 1 99
  literal '-'
  let d ← digits .day 2 0
  anyByte
  let h ← digits .hour 2 0
  literal ':'
  let mi ← digits .minute 2 0
  literal ':'
  let s ← digits .second 2 0
  let ns ← fraction
  let o ← offset
  ending
  let leap := s = 60
  if 12 < mo then throw (.range .month)
  let date ← inRange .day (Date.ofParts? y mo d)
  if 23 < h then throw (.range .hour)
  if 59 < mi then throw (.range .minute)
  let time ← inRange .second
    (if leap then Time.ofParts? h mi 59 999999999 else Time.ofParts? h mi s ns)
  let t ← inRange .offsetHour (OffsetTimestamp.ofParts? ⟨date, time⟩ o)
  if leap ∧ ¬ isLeapSecond t then throw (.range .second)
  return t

end CalendarReader

def Date.read (cs : List Char) : Except CalendarFault Date := CalendarReader.date.onText cs

def Time.read (cs : List Char) : Except CalendarFault Time := CalendarReader.time.onText cs

def Timestamp.read (cs : List Char) : Except CalendarFault Timestamp :=
  CalendarReader.timestamp.onText cs

def OffsetTimestamp.read (cs : List Char) : Except CalendarFault OffsetTimestamp :=
  CalendarReader.offsetTimestamp.onText cs

end RowBinding
