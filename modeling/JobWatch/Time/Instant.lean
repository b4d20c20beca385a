/-
  JobWatch.Time.Instant
  ─────────────────────
  **INSTANTS AND CALENDAR TIMES.**

  An instant is a whole number of seconds since the start of 1970 in UTC and
  a count of nanoseconds within the second, so that an instant before 1970
  counts its nanoseconds forward as well. Instants are ordered by seconds,
  then nanoseconds. A calendar time carries microseconds, and only instants
  of the years 1 to 9999 have one.
-/
import JobWatch.Number.Whole
import JobWatch.Time.Calendar

namespace JobWatch

/-! ## §1. Instants. -/

/-- Nanoseconds in a second. -/
def nanosPerSecond : Nat := 1000000000

/-- A point in time, to the nanosecond. -/
structure Instant where
  /-- Whole seconds since the start of 1970. -/
  seconds : Int
  /-- Nanoseconds within the second. -/
  nanos : Nat
  /-- The nanoseconds do not make up a second. -/
  nanos_lt : nanos < nanosPerSecond
  deriving DecidableEq

/-- Why a time cannot be built or written. -/
inductive TimeError where
  /-- The nanoseconds do not lie within a second. -/
  | nanosOutOfRange (nanos : Int)
  /-- The instant lies outside the years 1 to 9999. -/
  | beyondCalendar
  /-- No calendar time has these numbers. -/
  | invalidDate
  deriving DecidableEq, Repr

namespace Instant

theorem toNat_lt {nanos : Int} (h : 0 ≤ nanos ∧ nanos < nanosPerSecond) :
    nanos.toNat < nanosPerSecond := by
  omega

/-- The instant with these seconds and nanoseconds. -/
def make (seconds nanos : Int) : Except TimeError Instant :=
  if h : 0 ≤ nanos ∧ nanos < nanosPerSecond then
    .ok ⟨seconds, nanos.toNat, toNat_lt h⟩
  else .error (.nanosOutOfRange nanos)

/-- The start of 1970. -/
def epoch : Instant := ⟨0, 0, by decide⟩

/-- The instant so many milliseconds after the start of 1970. -/
def ofMillis (millis : Int) : Instant :=
  ⟨millis / 1000, (millis % 1000).toNat * 1000000, by
    have := Int.emod_lt_of_pos millis (show (0 : Int) < 1000 by decide)
    simp only [nanosPerSecond]
    omega⟩

/-- Whole milliseconds since the start of 1970, rounded down. -/
def millis (i : Instant) : Int := i.seconds * 1000 + (i.nanos / 1000000 : Nat)

/-- `a` comes before `b`. -/
def before (a b : Instant) : Bool :=
  a.seconds < b.seconds || (a.seconds == b.seconds && a.nanos < b.nanos)

instance : LT Instant := ⟨fun a b => a.before b = true⟩
instance : LE Instant := ⟨fun a b => b.before a = false⟩
instance (a b : Instant) : Decidable (a < b) := inferInstanceAs (Decidable (_ = true))
instance (a b : Instant) : Decidable (a ≤ b) := inferInstanceAs (Decidable (_ = false))

/-- Nanoseconds since the start of 1970. -/
def totalNanos (i : Instant) : Int := i.seconds * nanosPerSecond + i.nanos

/-- **Instants are ordered as their distances from the start of 1970.** -/
theorem lt_iff_totalNanos_lt (a b : Instant) : a < b ↔ a.totalNanos < b.totalNanos := by
  have ha := a.nanos_lt
  have hb := b.nanos_lt
  show a.before b = true ↔ _
  simp only [before, totalNanos, nanosPerSecond, Bool.or_eq_true, Bool.and_eq_true,
    decide_eq_true_eq, beq_iff_eq] at *
  omega

/-- An instant is not after another unless the other is before it. -/
theorem le_iff_not_lt (a b : Instant) : a ≤ b ↔ ¬ b < a := by
  show b.before a = false ↔ ¬ b.before a = true
  simp

end Instant

/-! ## §2. Calendar times. -/

/-- A day and a time of that day, to the microsecond. -/
structure CalendarTime where
  /-- The day. -/
  date : Date
  /-- The hour. -/
  hour : Fin 24
  /-- The minute of the hour. -/
  minute : Fin 60
  /-- The second of the minute. -/
  second : Fin 60
  /-- The microsecond of the second. -/
  micro : Fin 1000000
  deriving DecidableEq

namespace CalendarTime

/-- The number of the first day of 1970. -/
def epochDay : Nat := 719162

/-- The second of the day. -/
def secondOfDay (t : CalendarTime) : Nat :=
  3600 * t.hour.val + 60 * t.minute.val + t.second.val

/-- Whole seconds from the start of 1970, the time being read as UTC. -/
def epochSeconds (t : CalendarTime) : Int :=
  ((t.date.dayNumber : Int) - epochDay) * 86400 + t.secondOfDay

/-- Microseconds from the start of 1970, the time being read as UTC. -/
def epochMicros (t : CalendarTime) : Int := t.epochSeconds * 1000000 + t.micro.val

/-- A number below a bound. -/
def bounded? (bound : Nat) (n : Int) : Option (Fin bound) :=
  if h : 0 ≤ n ∧ n < bound then some ⟨n.toNat, by omega⟩ else none

/-- The calendar time with these numbers, if there is one. -/
def make? (year month day hour minute second micro : Int) : Option CalendarTime := do
  let date ← Date.make? year.toNat month.toNat day.toNat
  let hour ← bounded? 24 hour
  let minute ← bounded? 60 minute
  let second ← bounded? 60 second
  let micro ← bounded? 1000000 micro
  some ⟨date, hour, minute, second, micro⟩

/-- A number that a field can hold, whether or not it fits there: one of 32 bits. -/
def isField (n : Int) : Bool := -2147483648 ≤ n && n ≤ 2147483647

/-- The calendar time with these numbers: year, month and day, then as many of hour, minute,
second and microsecond as are given. -/
def make (fields : List Int) : Except TimeError CalendarTime :=
  let field := fun i => (fields[i]?).getD 0
  if fields.all isField then
    match make? (field 0) (field 1) (field 2) (field 3) (field 4) (field 5) (field 6) with
    | none => .error .invalidDate
    | some time => .ok time
  else .error .beyondCalendar

end CalendarTime

/-- How far a local clock runs ahead of UTC, to the microsecond: less than a day either way. -/
structure Offset where
  /-- Microseconds ahead of UTC. -/
  micros : Int
  /-- Less than a day. -/
  natAbs_lt : micros.natAbs < 86400000000
  deriving DecidableEq

/-- A clock that shows UTC. -/
def Offset.utc : Offset := ⟨0, by decide⟩

/-- The offset of so many seconds. A thousand million days are beyond any calendar. -/
def Offset.make (seconds : Int) : Except TimeError Offset :=
  if h : seconds.natAbs < 86400 then .ok ⟨seconds * 1000000, by omega⟩
  else if -86399999913600 ≤ seconds ∧ seconds ≤ 86399999999999 then .error .invalidDate
  else .error .beyondCalendar

/-- A calendar time with the offset of its clock; without one it is read as UTC. -/
structure ZonedTime where
  /-- What the clock shows. -/
  time : CalendarTime
  /-- How far the clock runs ahead. -/
  offset : Option Offset
  deriving DecidableEq

namespace ZonedTime

/-- The zoned time with these numbers: year, month and day, then as many of hour, minute,
second and microsecond as are given. -/
def make (fields : List Int) (offset : Option Int) : Except TimeError ZonedTime := do
  let offset ← offset.mapM Offset.make
  let time ← CalendarTime.make fields
  return ⟨time, offset⟩

/-- Microseconds ahead of UTC. -/
def ahead (z : ZonedTime) : Int := (z.offset.map Offset.micros).getD 0

/-- Microseconds from the start of 1970. -/
def epochMicros (z : ZonedTime) : Int := z.time.epochMicros - z.ahead

end ZonedTime

/-! ## §3. From one to the other. -/

namespace Instant

/-- The first second of the calendar. -/
def minSeconds : Int := -62135596800

/-- The last second of the calendar. -/
def maxSeconds : Int := 253402300799

/-- The instant of a zoned time. -/
def ofZoned (z : ZonedTime) : Instant :=
  ⟨z.epochMicros / 1000000, (z.epochMicros % 1000000).toNat * 1000, by
    have := Int.emod_lt_of_pos z.epochMicros (show (0 : Int) < 1000000 by decide)
    simp only [nanosPerSecond]
    omega⟩

/-- A second of the calendar lies on one of its days. -/
theorem day_lt {seconds : Int} (h : minSeconds ≤ seconds ∧ seconds ≤ maxSeconds) :
    (seconds - minSeconds).toNat / 86400 < Calendar.dayCount := by
  simp only [minSeconds, maxSeconds, Calendar.dayCount] at h ⊢
  omega

theorem hour_lt (total : Nat) : total % 86400 / 3600 < 24 := by omega

theorem minute_lt (total : Nat) : total % 3600 / 60 < 60 := by omega

theorem second_lt (total : Nat) : total % 60 < 60 := by omega

theorem micro_lt (i : Instant) : i.nanos / 1000 < 1000000 := by
  have := i.nanos_lt
  simp only [nanosPerSecond] at this
  omega

/-- The calendar time of an instant in UTC, rounded down to the microsecond. -/
def calendarTime (i : Instant) : Except TimeError CalendarTime :=
  if h : minSeconds ≤ i.seconds ∧ i.seconds ≤ maxSeconds then
    let total := (i.seconds - minSeconds).toNat
    .ok {
      date := Date.ofDayNumber (total / 86400) (day_lt h)
      hour := ⟨total % 86400 / 3600, hour_lt total⟩
      minute := ⟨total % 3600 / 60, minute_lt total⟩
      second := ⟨total % 60, second_lt total⟩
      micro := ⟨i.nanos / 1000, micro_lt i⟩ }
  else .error .beyondCalendar

end Instant

end JobWatch
