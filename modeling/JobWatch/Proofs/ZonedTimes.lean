/-
  JobWatch.Proofs.ZonedTimes
  ──────────────────────────
  **ZONED TIMES AND INSTANTS ARE POINTS OF ONE LINE.**

  A zoned time names a moment: so many microseconds since the start of 1970,
  the days counted by the lengths of years and months, less what its clock
  runs ahead.  Its instant is that moment, whatever the offset; and on the way
  back an instant gives the time of the calendar at its moment, as far as
  there is a calendar:

      totalNanos_ofZoned        — the instant of a zoned time is its moment
      calendarTime_eq_ok_iff    — when a calendar time is that of an instant
      calendarTime_ofZoned_iff  — it is that of a zoned time at one moment
      IsAt.toInstant            — checkpoints of all forms are moments
      ofZoned_exact             — all of this, and what it means for a fetch
-/
import JobWatch.Proofs.LaterCheckpoint
import JobWatch.Proofs.WireRoundTrip

namespace JobWatch

/-! ## §1. Moments. -/

namespace ZonedTime

/-- The moment that a zoned time names, in microseconds since the start of 1970: the days by the
lengths of years and months, then the time of day, less what the clock runs ahead. -/
def microsSince1970 (z : ZonedTime) : Int :=
  1000000 * (86400 * Calendar.daysSince1970 z.time.date.year z.time.date.month z.time.date.day
      + 3600 * z.time.hour.val + 60 * z.time.minute.val + z.time.second.val)
    + z.time.micro.val - z.ahead

theorem epochMicros_eq (z : ZonedTime) : z.epochMicros = z.microsSince1970 := by
  unfold epochMicros CalendarTime.epochMicros microsSince1970
  rw [CalendarTime.epochSeconds_eq]
  omega

/-- A time of the calendar on a clock that shows UTC. -/
def inUtc (t : CalendarTime) : ZonedTime := ⟨t, some .utc⟩

theorem epochMicros_inUtc (t : CalendarTime) : (inUtc t).epochMicros = t.epochMicros :=
  Int.sub_zero _

end ZonedTime

namespace CalendarTime

/-- A time of the calendar is known by its numbers and its microseconds. -/
theorem eq_of_numbers {t u : CalendarTime} (h : t.numbers = u.numbers)
    (hmicro : t.micro = u.micro) : t = u := by
  obtain ⟨date, hour, minute, second, micro⟩ := t
  obtain ⟨date', hour', minute', second', micro'⟩ := u
  rw [numbers_eq, numbers_eq] at h
  obtain ⟨hdate, htime⟩ := List.append_inj h (Date.length_numbers _ _)
  simp only [List.cons.injEq, and_true, Fin.val_inj] at htime hmicro
  obtain ⟨rfl, rfl, rfl⟩ := htime
  obtain rfl := Date.numbers_injective hdate
  rw [hmicro]

end CalendarTime

/-! ## §2. From one to the other. -/

namespace Instant

/-- **The instant of a zoned time is its moment.** -/
theorem totalNanos_ofZoned (z : ZonedTime) : (ofZoned z).totalNanos = 1000 * z.epochMicros := by
  simp only [totalNanos, ofZoned, nanosPerSecond]
  omega

/-- Whole seconds and what is left of the moment make the instant. -/
theorem make_ofZoned (z : ZonedTime) :
    make (z.epochMicros / 1000000) (z.epochMicros % 1000000 * 1000) = .ok (ofZoned z) := by
  have hrange : 0 ≤ z.epochMicros % 1000000 * 1000
      ∧ z.epochMicros % 1000000 * 1000 < nanosPerSecond := by
    unfold nanosPerSecond
    omega
  unfold make
  rw [dif_pos hrange, Except.ok.injEq, eq_iff_seconds]
  refine ⟨rfl, ?_⟩
  show (z.epochMicros % 1000000 * 1000).toNat = (z.epochMicros % 1000000).toNat * 1000
  omega

/-- A calendar time is that of an instant when they have the same seconds, and the same
microseconds within the second. -/
theorem calendarTime_eq_ok_iff {i : Instant} {t : CalendarTime} :
    i.calendarTime = .ok t ↔ t.epochSeconds = i.seconds ∧ t.micro.val = i.nanos / 1000 := by
  have hmicro {t : CalendarTime} (h : i.calendarTime = .ok t) : t.micro.val = i.nanos / 1000 := by
    unfold calendarTime at h
    split at h
    next =>
      obtain rfl := Except.ok.inj h
      rfl
    next => exact absurd h (by simp)
  constructor
  · exact fun h => ⟨epochSeconds_of_calendarTime h, hmicro h⟩
  · rintro ⟨hseconds, hmicros⟩
    -- there is a calendar time of the instant, and it has the numbers of this one
    have hrange := epochSeconds_range t
    rw [hseconds] at hrange
    obtain ⟨u, hu⟩ := calendarTime_of_range hrange
    have hsame := (epochSeconds_of_calendarTime hu).trans hseconds.symm
    have hequal : u = t := CalendarTime.eq_of_numbers
      ((CalendarTime.epochSeconds_eq_iff u t).mp hsame)
      (Fin.ext ((hmicro hu).trans hmicros.symm))
    rw [hu, hequal]

/-- **An instant has no calendar time when it lies outside the calendar**, and only then. -/
theorem calendarTime_eq_error_iff {i : Instant} :
    i.calendarTime = .error .beyondCalendar
      ↔ ¬(minSeconds ≤ i.seconds ∧ i.seconds ≤ maxSeconds) := by
  unfold calendarTime
  split
  next hrange => exact ⟨fun h => absurd h (by simp), fun h => absurd hrange h⟩
  next hrange => exact ⟨fun _ => hrange, fun _ => rfl⟩

/-- What a calendar time keeps of its instant: all but what is less than a microsecond. -/
theorem ofZoned_calendarTime {i : Instant} {t : CalendarTime} (h : i.calendarTime = .ok t) :
    (ofZoned (ZonedTime.inUtc t)).seconds = i.seconds
      ∧ (ofZoned (ZonedTime.inUtc t)).nanos = i.nanos / 1000 * 1000 := by
  obtain ⟨hseconds, hmicro⟩ := calendarTime_eq_ok_iff.mp h
  have hbound := t.micro.isLt
  show (ZonedTime.inUtc t).epochMicros / 1000000 = i.seconds
    ∧ ((ZonedTime.inUtc t).epochMicros % 1000000).toNat * 1000 = i.nanos / 1000 * 1000
  rw [ZonedTime.epochMicros_inUtc, CalendarTime.epochMicros, hseconds]
  omega

/-- **A zoned time comes back as the calendar time in UTC of one moment with it.** -/
theorem calendarTime_ofZoned_iff {z : ZonedTime} {u : CalendarTime} :
    (ofZoned z).calendarTime = .ok u ↔ (ZonedTime.inUtc u).epochMicros = z.epochMicros := by
  have hbound := u.micro.isLt
  have hnanos : (ofZoned z).nanos / 1000 = (z.epochMicros % 1000000).toNat :=
    Nat.mul_div_cancel _ (by decide)
  rw [calendarTime_eq_ok_iff, hnanos, ZonedTime.epochMicros_inUtc, CalendarTime.epochMicros]
  show u.epochSeconds = z.epochMicros / 1000000 ∧ _ ↔ _
  omega

end Instant

/-! ## §3. Checkpoints. -/

namespace Checkpoint

/-- The moment of a checkpoint, in nanoseconds since the start of 1970, by its form. -/
inductive IsAt : Checkpoint → Int → Prop
  /-- An instant is where it is. -/
  | instant (i : Instant) : IsAt (.instant i) i.totalNanos
  /-- A zoned time names a moment to the microsecond. -/
  | zoned (z : ZonedTime) : IsAt (.zoned z) (1000 * z.microsSince1970)
  /-- A whole number counts milliseconds. -/
  | millis (m : Int) : IsAt (.millis (.int m)) (1000000 * m)

/-- **A checkpoint of any form is the instant at its moment.** -/
theorem IsAt.toInstant {c : Checkpoint} {n : Int} (h : c.IsAt n) :
    ∃ i, c.toInstant = .ok i ∧ i.totalNanos = n := by
  cases h with
  | instant i => exact ⟨i, rfl, rfl⟩
  | zoned z =>
    refine ⟨.ofZoned z, rfl, ?_⟩
    rw [Instant.totalNanos_ofZoned, ZonedTime.epochMicros_eq]
  | millis m => exact ⟨.ofMillis m, rfl, Instant.totalNanos_ofMillis m⟩

theorem IsAt.toInstant_eq {c c' : Checkpoint} {n : Int} (h : c.IsAt n) (h' : c'.IsAt n) :
    c.toInstant = c'.toInstant := by
  obtain ⟨i, hi, hn⟩ := h.toInstant
  obtain ⟨i', hi', hn'⟩ := h'.toInstant
  rw [hi, hi', Instant.totalNanos_injective (hn.trans hn'.symm)]

end Checkpoint

namespace Instant

/-- **Calendar times are converted exactly, and the forms of a checkpoint agree.**  Every zoned
time has an instant, which is its moment.  Checkpoints of one moment fetch the same, whatever
their forms and offsets.  An instant has no calendar time exactly when it lies outside the years
1 to 9999; else its calendar time, read back, is the instant down to the microsecond.  The instant
of a zoned time has for calendar time the one in UTC at the same moment, if there is one. -/
theorem ofZoned_exact :
    (∀ z : ZonedTime,
        make (z.epochMicros / 1000000) (z.epochMicros % 1000000 * 1000) = .ok (ofZoned z)
          ∧ (ofZoned z).seconds * 1000000000 + (ofZoned z).nanos = 1000 * z.microsSince1970)
      ∧ (∀ {c c' : Checkpoint} {n : Int}, c.IsAt n → c'.IsAt n →
          ∀ {σ : Type} (service : Service σ) (limit : Nat) (project job : Value) (s : σ),
            fetch service limit project job c s = fetch service limit project job c' s)
      ∧ (∀ i : Instant,
          (i.calendarTime = .error .beyondCalendar
              ↔ ¬(minSeconds ≤ i.seconds ∧ i.seconds ≤ maxSeconds))
            ∧ (minSeconds ≤ i.seconds ∧ i.seconds ≤ maxSeconds →
                ∃ t, i.calendarTime = .ok t
                  ∧ (ofZoned (ZonedTime.inUtc t)).seconds = i.seconds
                  ∧ (ofZoned (ZonedTime.inUtc t)).nanos = i.nanos / 1000 * 1000))
      ∧ ∀ (z : ZonedTime) (u : CalendarTime), (ofZoned z).calendarTime = .ok u
          ↔ (ZonedTime.inUtc u).microsSince1970 = z.microsSince1970 := by
  refine ⟨?_, ?_, ?_, ?_⟩
  · intro z
    rw [← z.epochMicros_eq]
    exact ⟨make_ofZoned z, totalNanos_ofZoned z⟩
  · intro c c' n h h' σ service limit project job s
    unfold fetch
    rw [h.toInstant_eq h']
  · intro i
    refine ⟨calendarTime_eq_error_iff, fun hrange => ?_⟩
    obtain ⟨t, ht⟩ := calendarTime_of_range hrange
    exact ⟨t, ht, ofZoned_calendarTime ht⟩
  · intro z u
    rw [← ZonedTime.epochMicros_eq, ← ZonedTime.epochMicros_eq]
    exact calendarTime_ofZoned_iff

/-- Four seconds past one, where the clock runs an hour ahead, fetches as four thousand
milliseconds do; and the last nanosecond before 1970 is read back as its microsecond. -/
theorem ofZoned_exact_fourPast :
    Checkpoint.IsAt (.zoned Script.fourPast) 4000000000
      ∧ fetch Script.service 3 (.text "p") (.text "j") (.zoned Script.fourPast)
          ⟨Script.fourth, []⟩
        = fetch Script.service 3 (.text "p") (.text "j") (.millis (.int 4000)) ⟨Script.fourth, []⟩
      ∧ ∃ t, (⟨-1, 999999999, by decide⟩ : Instant).calendarTime = .ok t
          ∧ (ofZoned (ZonedTime.inUtc t)).seconds = -1
          ∧ (ofZoned (ZonedTime.inUtc t)).nanos = 999999000 := by
  have hmoment : 1000 * Script.fourPast.microsSince1970 = 4000000000 := by decide
  have hzoned : Checkpoint.IsAt (.zoned Script.fourPast) 4000000000 := hmoment ▸ .zoned _
  obtain ⟨-, hforms, hback, -⟩ := ofZoned_exact
  exact ⟨hzoned, hforms hzoned (.millis 4000) _ _ _ _ _, (hback _).2 (by decide)⟩

end Instant

end JobWatch
