import RowBinding.Proofs.ConversionLaws
import RowBinding.Proofs.DayNumbers
/-!
# Universal times

A timestamp with an offset is converted to the timestamp of universal time, its local time less the offset, whatever
month, year or leap day lies between the two.  **The conversions between dates, timestamps and timestamps with offset
agree with each other, and those between identifiers and bytes do** (`Value.conversions_commute`), as long as the
universal time lies in a year of the calendar.
-/
namespace RowBinding

namespace Time

theorem secondOfDay_lt (t : Time) : t.secondOfDay < secondsPerDay := by
  have hhour := t.hour_lt
  have hminute := t.minute_lt
  have hsecond := t.second_lt
  unfold secondOfDay secondsPerDay
  omega

theorem secondOfDay_atSecond {n : Nat} (h : n < secondsPerDay) (t : Time) : (atSecond n h t).secondOfDay = n := by
  simp only [atSecond, secondOfDay]
  omega

theorem eq_of_secondOfDay {s t : Time} (h : s.secondOfDay = t.secondOfDay) (hnano : s.nanosecond = t.nanosecond) :
    s = t := by
  obtain ⟨hour, minute, second, nanosecond, hhour, hminute, hsecond, hns⟩ := s
  obtain ⟨hour', minute', second', nanosecond', hhour', hminute', hsecond', hns'⟩ := t
  simp only [secondOfDay] at h
  obtain rfl : hour = hour' := by omega
  obtain rfl : minute = minute' := by omega
  obtain rfl : second = second' := by omega
  obtain rfl : nanosecond = nanosecond' := hnano
  rfl

end Time

namespace Timestamp

/-- **Seconds are added with the carry into the date**: what is moved so is the one timestamp that is so many seconds
later. -/
theorem shift?_eq_some_iff {t u : Timestamp} {seconds : Int} :
    t.shift? seconds = some u ↔ u.seconds = t.seconds + seconds ∧ u.time.nanosecond = t.time.nanosecond := by
  obtain ⟨date, time⟩ := u
  have hday := time.secondOfDay_lt
  simp only [shift?, Option.map_eq_some_iff, Date.addDays?_eq_some_iff]
  constructor
  · rintro ⟨_, hdate, heq⟩
    obtain ⟨rfl, rfl⟩ := Timestamp.mk.inj heq
    refine ⟨?_, rfl⟩
    simp only [Timestamp.seconds, Time.secondOfDay_atSecond, hdate, secondsPerDay]
    omega
  · rintro ⟨hseconds, hnano⟩
    simp only [Timestamp.seconds, secondsPerDay] at hseconds hday ⊢
    refine ⟨date, by omega, congrArg _ (Time.eq_of_secondOfDay ?_ hnano.symm)⟩
    rw [Time.secondOfDay_atSecond]
    omega

end Timestamp

namespace OffsetTimestamp

variable {z : OffsetTimestamp} {u : Timestamp}

/-- The universal time lies in one of the years of the calendar. -/
def InCalendar (z : OffsetTimestamp) : Prop :=
  Date.daysBeforeYear firstYear * secondsPerDay ≤ z.instant.1 ∧
    z.instant.1 < Date.daysBeforeYear (lastYear + 1) * secondsPerDay

instance (z : OffsetTimestamp) : Decidable z.InCalendar := inferInstanceAs (Decidable (_ ∧ _))

/-- **The universal time is the timestamp of the same instant.** -/
theorem utc?_eq_some_iff : z.utc? = some u ↔ (u.seconds, u.time.nanosecond) = z.instant := by
  rw [utc?, Timestamp.shift?_eq_some_iff, instant, Prod.mk.injEq, Int.sub_eq_add_neg]

theorem exists_utc?_iff : (∃ u, z.utc? = some u) ↔ z.InCalendar := by
  simp only [utc?_eq_some_iff, InCalendar]
  constructor
  · rintro ⟨u, hu⟩
    have hdays := u.date.dayNumber_bounds
    have htime := u.time.secondOfDay_lt
    rw [← hu]
    simp only [Timestamp.seconds, Date.firstDay, Date.lastDay, secondsPerDay] at *
    omega
  · rintro ⟨hfirst, hlast⟩
    simp only [secondsPerDay] at hfirst hlast
    have hday : Date.firstDay ≤ z.instant.1 / 86400 + 1 ∧ z.instant.1 / 86400 + 1 ≤ Date.lastDay := by
      unfold Date.firstDay Date.lastDay
      omega
    have hsecond : (z.instant.1 % 86400).toNat < secondsPerDay := by
      unfold secondsPerDay
      omega
    obtain ⟨date, hdate⟩ := Date.exists_dayNumber_iff.2 hday
    refine ⟨⟨date, Time.atSecond _ hsecond z.localTime.time⟩, Prod.ext ?_ rfl⟩
    simp only [Timestamp.seconds, Time.secondOfDay_atSecond, hdate, secondsPerDay]
    omega

theorem utc?_ofUtc (u : Timestamp) : (ofUtc u).utc? = some u := by
  rw [utc?_eq_some_iff]
  simp [instant, ofUtc]

end OffsetTimestamp

namespace Uuid

theorem ofBytes?_bytes (u : Uuid) : ofBytes? u.bytes = some u := dif_pos u.length_eq

theorem ofBytes?_eq_some_iff {bytes : List UInt8} {u : Uuid} : ofBytes? bytes = some u ↔ u.bytes = bytes := by
  constructor
  · intro h
    unfold ofBytes? at h
    split at h
    · rw [← Option.some.inj h]
    · cases h
  · rintro rfl
    exact u.ofBytes?_bytes

end Uuid

namespace Value

variable {z : OffsetTimestamp}

theorem convert_timestamp_of_utc? {u : Timestamp} (h : z.utc? = some u) :
    (datum (.offsetTimestamp z)).convert .timestamp = .ok (datum (.timestamp u)) := by
  have hconvert : (datum (.offsetTimestamp z)).convert .timestamp =
      ((Datum.universal z).map Datum.timestamp).map datum := rfl
  rw [hconvert, Datum.universal, h]
  rfl

/-- The date of a timestamp with an offset is that of its universal time. -/
theorem convert_date_eq (z : OffsetTimestamp) : (datum (.offsetTimestamp z)).convert .date =
    (datum (.offsetTimestamp z)).convert .timestamp >>= (·.convert .date) := by
  have hdate : (datum (.offsetTimestamp z)).convert .date =
      ((Datum.universal z).map fun u => Datum.date u.date).map datum := rfl
  have htimestamp : (datum (.offsetTimestamp z)).convert .timestamp =
      ((Datum.universal z).map Datum.timestamp).map datum := rfl
  rw [hdate, htimestamp]
  cases Datum.universal z <;> rfl

theorem convert_uuid_eq_ok_iff {bytes : List UInt8} {w : Value} :
    (datum (.blob bytes)).convert .uuid = .ok w ↔ ∃ u : Uuid, u.bytes = bytes ∧ w = datum (.uuid u) := by
  rw [convert_datum_eq_ok]
  simp only [← Uuid.ofBytes?_eq_some_iff]
  cases h : Uuid.ofBytes? bytes <;> simp [Datum.convert, Datum.convertTo, Datum.type, h]

/-- **Conversions of dates, times and identifiers commute.**
- A date comes back from the timestamp of its midnight, and a timestamp from universal time; the date of a timestamp is
  the same on the way through universal time.
- A timestamp with an offset whose universal time lies in the calendar becomes the timestamp so many seconds before or
  after its local time, which taken as universal time is the same instant; its date is that of this timestamp.
- An identifier comes back from its bytes, and sixteen bytes, and no others, from an identifier. -/
theorem conversions_commute :
    (∀ d : Date, (datum (.date d)).convert .timestamp >>= (·.convert .date) = .ok (datum (.date d))) ∧
    (∀ t : Timestamp,
      (datum (.timestamp t)).convert .offsetTimestamp >>= (·.convert .timestamp) = .ok (datum (.timestamp t)) ∧
      (datum (.timestamp t)).convert .date = .ok (datum (.date t.date)) ∧
      (datum (.timestamp t)).convert .offsetTimestamp >>= (·.convert .date) = .ok (datum (.date t.date))) ∧
    (∀ z : OffsetTimestamp, z.InCalendar → ∃ u y,
      (datum (.offsetTimestamp z)).convert .timestamp = .ok (datum (.timestamp u)) ∧
      u.seconds = z.localTime.seconds - z.offset ∧ u.time.nanosecond = z.localTime.time.nanosecond ∧
      (datum (.timestamp u)).convert .offsetTimestamp = .ok (datum (.offsetTimestamp y)) ∧ y.sameInstant z = true ∧
      (datum (.offsetTimestamp z)).convert .date = .ok (datum (.date u.date)) ∧
      (datum (.timestamp u)).convert .date = .ok (datum (.date u.date))) ∧
    (∀ u : Uuid, (datum (.uuid u)).convert .blob >>= (·.convert .uuid) = .ok (datum (.uuid u))) ∧
    ∀ bytes : List UInt8, ((∃ w, (datum (.blob bytes)).convert .uuid = .ok w) ↔ bytes.length = 16) ∧
      ∀ w, (datum (.blob bytes)).convert .uuid = .ok w → w.convert .blob = .ok (datum (.blob bytes)) := by
  refine ⟨fun d => rfl, fun t => ?_, fun z hz => ?_, fun u => ?_, fun bytes => ⟨?_, fun w hw => ?_⟩⟩
  · have htimestamp := convert_timestamp_of_utc? (OffsetTimestamp.utc?_ofUtc t)
    refine ⟨htimestamp, rfl, ?_⟩
    show (datum (.offsetTimestamp (.ofUtc t))).convert .date = _
    rw [convert_date_eq, htimestamp]
    rfl
  · obtain ⟨u, hu⟩ := OffsetTimestamp.exists_utc?_iff.2 hz
    have htimestamp := convert_timestamp_of_utc? hu
    have hinstant := OffsetTimestamp.utc?_eq_some_iff.1 hu
    obtain ⟨hseconds, hnano⟩ := Prod.mk.inj hinstant
    refine ⟨u, .ofUtc u, htimestamp, hseconds, hnano, rfl, ?_, ?_, rfl⟩
    · rw [OffsetTimestamp.sameInstant, ← hinstant, beq_iff_eq]
      simp [OffsetTimestamp.instant, OffsetTimestamp.ofUtc]
    · rw [convert_date_eq, htimestamp]
      rfl
  · show (datum (.blob u.bytes)).convert .uuid = _
    exact convert_uuid_eq_ok_iff.2 ⟨u, rfl, rfl⟩
  · simp only [convert_uuid_eq_ok_iff]
    constructor
    · rintro ⟨w, u, rfl, -⟩
      exact u.length_eq
    · intro h
      exact ⟨_, ⟨bytes, h⟩, rfl, rfl⟩
  · obtain ⟨u, rfl, rfl⟩ := convert_uuid_eq_ok_iff.1 hw
    rfl

/-- One o'clock on the first morning of the year zero, a day and almost two hours ahead of universal time. -/
def earlyMorning : OffsetTimestamp :=
  (OffsetTimestamp.ofParts? ⟨(Date.ofParts? 0 1 1).get rfl, (Time.ofParts? 1 0 0 5).get rfl⟩ 93599).get rfl

/-- In universal time that is still the thirtieth of December of the year before. -/
def lateEvening : Timestamp :=
  ⟨(Date.ofParts? (-1) 12 30).get rfl, (Time.ofParts? 23 0 1 5).get rfl⟩

theorem conversions_commute_earlyMorning : earlyMorning.InCalendar ∧
    (datum (.offsetTimestamp earlyMorning)).convert .timestamp = .ok (datum (.timestamp lateEvening)) ∧
    lateEvening.seconds = earlyMorning.localTime.seconds - 93599 ∧
    (datum (.offsetTimestamp earlyMorning)).convert .date = .ok (datum (.date lateEvening.date)) ∧
    ∃ w, (datum (.blob (List.replicate 16 7))).convert .uuid = .ok w ∧
      w.convert .blob = .ok (datum (.blob (List.replicate 16 7))) := by
  have hcalendar : earlyMorning.InCalendar := by decide
  have hlate : (datum (.offsetTimestamp earlyMorning)).convert .timestamp = .ok (datum (.timestamp lateEvening)) := rfl
  obtain ⟨-, -, htimes, -, hbytes⟩ := conversions_commute
  obtain ⟨u, y, htimestamp, hseconds, -, -, -, hdate, -⟩ := htimes earlyMorning hcalendar
  obtain ⟨hsixteen, hback⟩ := hbytes (List.replicate 16 7)
  obtain ⟨w, hw⟩ := hsixteen.2 rfl
  obtain rfl : u = lateEvening := by simpa using htimestamp.symm.trans hlate
  exact ⟨hcalendar, htimestamp, hseconds, hdate, w, hw, hback w hw⟩

end Value

end RowBinding
