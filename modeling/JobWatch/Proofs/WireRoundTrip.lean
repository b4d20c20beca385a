/-
  JobWatch.Proofs.WireRoundTrip
  ─────────────────────────────
  **WHAT IS WRITTEN FOR THE WIRE IS READ BACK.**

  Every instant of the calendar has a wire form, and reading it gives the
  instant again, to the nanosecond; so does reading its pair of seconds and
  nanoseconds, with the seconds as a number or as a decimal text.  On the way
  from an instant to a text lie a calendar time and the digits of a stamp:

      numbers_stamp      — the digits of a calendar time write its numbers
      instant?_stamp     — the digits of a calendar time mean that time
      epochSeconds_of_calendarTime
                         — a calendar time is as far from 1970 as its instant
      nanosOf_wireDigits — the digits of the fraction mean the nanoseconds
      ofWire_toWire      — all three forms are read back
-/
import JobWatch.Proofs.StampGrammar

namespace JobWatch

/-! ## §1. Calendar times. -/

theorem Calendar.monthLength_le (leap : Bool) (m : Nat) : monthLength leap m ≤ 31 := by
  unfold monthLength
  split <;> try split
  all_goals decide

namespace CalendarTime

/-- The digits of a calendar time to the second, with a fraction behind them. -/
def stamp (t : CalendarTime) (fraction : List Digit) : Stamp where
  year := fixedDigits 4 t.date.year
  month := fixedDigits 2 t.date.month
  day := fixedDigits 2 t.date.day
  hour := fixedDigits 2 t.hour.val
  minute := fixedDigits 2 t.minute.val
  second := fixedDigits 2 t.second.val
  fraction := fraction

theorem stamp_shaped (t : CalendarTime) {fraction : List Digit} (h : fraction.length ≤ 9) :
    (t.stamp fraction).Shaped :=
  ⟨length_fixedDigits _ _, length_fixedDigits _ _, length_fixedDigits _ _, length_fixedDigits _ _,
    length_fixedDigits _ _, length_fixedDigits _ _, h⟩

theorem text_stamp (t : CalendarTime) (fraction : List Digit) :
    (t.stamp fraction).text = t.text ++ Stamp.pointed fraction ++ [CodePoint.ofChar 'Z'] := rfl

/-- The digits of a calendar time write its numbers. -/
theorem numbers_stamp (t : CalendarTime) (fraction : List Digit) :
    (t.stamp fraction).numbers = t.numbers := by
  obtain ⟨-, hyear, -, hmonth, -, hday⟩ := t.date.isDate
  have hlength := Calendar.monthLength_le (Calendar.isLeap t.date.year) t.date.month
  -- every number of the time fits into its digits
  have hyear : number (fixedDigits 4 t.date.year) = t.date.year :=
    number_fixedDigits_of_lt (by omega)
  have hmonth : number (fixedDigits 2 t.date.month) = t.date.month :=
    number_fixedDigits_of_lt (by omega)
  have hday : number (fixedDigits 2 t.date.day) = t.date.day :=
    number_fixedDigits_of_lt (by omega)
  have hhour : number (fixedDigits 2 t.hour.val) = t.hour.val :=
    number_fixedDigits_of_lt (by omega)
  have hminute : number (fixedDigits 2 t.minute.val) = t.minute.val :=
    number_fixedDigits_of_lt (by omega)
  have hsecond : number (fixedDigits 2 t.second.val) = t.second.val :=
    number_fixedDigits_of_lt (by omega)
  unfold Stamp.numbers stamp
  rw [hyear, hmonth, hday, hhour, hminute, hsecond]
  rfl

/-- **The digits of a calendar time mean that time**, with the fraction for nanoseconds. -/
theorem instant?_stamp (t : CalendarTime) (fraction : List Digit) :
    (t.stamp fraction).instant?
      = some ⟨t.epochSeconds, Stamp.nanosOf fraction, Stamp.nanosOf_lt fraction⟩ :=
  Stamp.instant?_eq_some_iff.mpr ⟨t, (numbers_stamp t fraction).symm, rfl⟩

end CalendarTime

/-- **A calendar time is as far from 1970 as its instant**, to the second. -/
theorem Instant.epochSeconds_of_calendarTime {i : Instant} {t : CalendarTime}
    (h : i.calendarTime = .ok t) : t.epochSeconds = i.seconds := by
  unfold calendarTime at h
  split at h
  next hrange =>
    obtain rfl := Except.ok.inj h
    unfold CalendarTime.epochSeconds CalendarTime.secondOfDay
    -- the day is found from its number, and the rest is division with remainder
    rw [Date.dayNumber_ofDayNumber]
    simp only [minSeconds, CalendarTime.epochDay] at hrange ⊢
    omega
  next => exact absurd h (by simp)

theorem Instant.calendarTime_of_range {i : Instant}
    (h : minSeconds ≤ i.seconds ∧ i.seconds ≤ maxSeconds) : ∃ t, i.calendarTime = .ok t := by
  unfold calendarTime
  rw [dif_pos h]
  exact ⟨_, rfl⟩

/-! ## §2. Fractions. -/

theorem Stamp.nanosOf_fixedDigits {w n : Nat} (hw : w ≤ 9) (hn : n < 10 ^ w) :
    nanosOf (fixedDigits w n) = n * 10 ^ (9 - w) := by
  have hlength := length_fixedDigits w n
  rw [nanosOf_eq (by omega), hlength, number_fixedDigits_of_lt hn]

/-- How many digits a wire fraction may have. -/
def wireWidths : List Nat := [0, 3, 6, 9]

/-- The digits of the wire fraction. -/
def wireDigits (nanos : Nat) : List Digit :=
  if nanos = 0 then []
  else if nanos % 1000000 = 0 then fixedDigits 3 (nanos / 1000000)
  else if nanos % 1000 = 0 then fixedDigits 6 (nanos / 1000)
  else fixedDigits 9 nanos

theorem Stamp.pointed_fixedDigits (w n : Nat) :
    pointed (fixedDigits (w + 1) n) = Instant.fractionText (w + 1) n := by
  unfold Instant.fractionText
  rw [Text.padded_eq_ofDigits]
  have hlength := length_fixedDigits (w + 1) n
  cases hds : fixedDigits (w + 1) n with
  | nil =>
    rw [hds] at hlength
    exact absurd hlength (by simp)
  | cons d ds => rfl

theorem wireFraction_eq_pointed (nanos : Nat) :
    Instant.wireFraction nanos = Stamp.pointed (wireDigits nanos) := by
  unfold Instant.wireFraction wireDigits
  by_cases h0 : nanos = 0
  · rw [if_pos h0, if_pos h0]
    rfl
  rw [if_neg h0, if_neg h0]
  by_cases h3 : nanos % 1000000 = 0
  · rw [if_pos h3, if_pos h3, Stamp.pointed_fixedDigits]
  rw [if_neg h3, if_neg h3]
  by_cases h6 : nanos % 1000 = 0
  · rw [if_pos h6, if_pos h6, Stamp.pointed_fixedDigits]
  · rw [if_neg h6, if_neg h6, Stamp.pointed_fixedDigits]

theorem length_wireDigits (nanos : Nat) :
    (wireDigits nanos).length
      = if nanos = 0 then 0
        else if nanos % 1000000 = 0 then 3
        else if nanos % 1000 = 0 then 6
        else 9 := by
  unfold wireDigits
  simp only [apply_ite List.length, length_fixedDigits, List.length_nil]

theorem length_wireDigits_mem (nanos : Nat) : (wireDigits nanos).length ∈ wireWidths := by
  rw [length_wireDigits]
  repeat' split
  all_goals decide

/-- **The digits of the wire fraction mean the nanoseconds.** -/
theorem nanosOf_wireDigits {nanos : Nat} (h : nanos < nanosPerSecond) :
    Stamp.nanosOf (wireDigits nanos) = nanos := by
  unfold nanosPerSecond at h
  unfold wireDigits
  split
  next h0 =>
    rw [h0]
    decide
  next =>
    split
    next h3 =>
      rw [Stamp.nanosOf_fixedDigits (by decide) (by omega)]
      omega
    next =>
      split
      next h6 =>
        rw [Stamp.nanosOf_fixedDigits (by decide) (by omega)]
        omega
      next =>
        rw [Stamp.nanosOf_fixedDigits (by decide) (by omega)]
        omega

/-- **No allowed fraction is shorter** than the wire fraction of the nanoseconds that it means. -/
theorem length_wireDigits_le {ds : List Digit} (h : ds.length ∈ wireWidths) :
    (wireDigits (Stamp.nanosOf ds)).length ≤ ds.length := by
  have hwidth : ds.length = 0 ∨ ds.length = 3 ∨ ds.length = 6 ∨ ds.length = 9 := by
    unfold wireWidths at h
    simpa using h
  have hnanos : Stamp.nanosOf ds = number ds * 10 ^ (9 - ds.length) := Stamp.nanosOf_eq (by omega)
  have hlt := number_lt ds
  -- what `ds` means is a multiple of its place value, which decides the width
  rw [length_wireDigits]
  rcases hwidth with hw | hw | hw | hw <;> rw [hw] at hnanos hlt ⊢ <;> repeat' split
  all_goals omega

/-! ## §3. Instants in writing. -/

namespace Instant

/-- The wire form of an instant is a stamp in writing. -/
theorem toWire_eq {i : Instant} {t : CalendarTime} (h : i.calendarTime = .ok t) :
    i.toWire = .ok (t.stamp (wireDigits i.nanos)).text := by
  unfold toWire stamped
  rw [h, wireFraction_eq_pointed, CalendarTime.text_stamp]

/-- The stamp of an instant means that instant. -/
theorem instant?_stamp_wireDigits {i : Instant} {t : CalendarTime} (h : i.calendarTime = .ok t) :
    (t.stamp (wireDigits i.nanos)).instant? = some i := by
  rw [CalendarTime.instant?_stamp]
  simp only [epochSeconds_of_calendarTime h, nanosOf_wireDigits i.nanos_lt]

/-- A pair of fields that stand for the numbers of an instant is read as that instant. -/
theorem ofWire_object {i : Instant} (h : minSeconds ≤ i.seconds ∧ i.seconds ≤ maxSeconds)
    {fields : Fields} {seconds nanos : Value}
    (hseconds : Fields.get? "seconds" fields = some seconds) (hs : seconds.toInt = .ok i.seconds)
    (hnanos : Fields.get? "nanos" fields = some nanos) (hn : nanos.toInt = .ok (i.nanos : Int)) :
    ofWire (.object fields) = .ok (some i) := by
  have hlt := i.nanos_lt
  have hpair : ofPair? i.seconds i.nanos = some i := by
    unfold ofPair?
    rw [dif_pos ⟨Int.natCast_nonneg _, Int.ofNat_lt.mpr hlt⟩, if_pos h]
    rfl
  show ofFields fields = _
  unfold ofFields field
  simp only [hseconds, hs, hnanos, Option.getD_some, hn, hpair]

theorem toInt_text_ofInt {n : Int} (h : minSeconds ≤ n ∧ n ≤ maxSeconds) :
    (Value.text (Text.ofInt n)).toInt = .ok n := by
  have hsize : n.natAbs < 10 ^ 12 := by
    simp only [minSeconds, maxSeconds] at h
    omega
  have hlimit : n.natAbs < 10 ^ digitLimit :=
    Nat.lt_of_lt_of_le hsize (Nat.pow_le_pow_right (by decide) (by decide))
  simp only [Value.toInt, Text.readInt?_ofInt hlimit]

/-- **What is written for the wire is read back.**  Seconds within the calendar and nanoseconds
within the second make an instant, which has a wire form; that form, the pair of the two numbers,
and the pair with the seconds as a decimal text are all read as that instant.  The fraction of
the wire form has 0, 3, 6 or 9 digits, and no fraction with fewer of these means the same
nanoseconds. -/
theorem ofWire_toWire {s n : Int} (hs : minSeconds ≤ s ∧ s ≤ maxSeconds)
    (hn : 0 ≤ n ∧ n < nanosPerSecond) :
    ∃ (i : Instant) (stamp : Stamp), make s n = .ok i ∧ i.seconds = s ∧ (i.nanos : Int) = n
      ∧ i.toWire = .ok stamp.text
      ∧ ofWire (.text stamp.text) = .ok (some i)
      ∧ ofWire (.object [("seconds", .int s), ("nanos", .int n)]) = .ok (some i)
      ∧ ofWire (.object [("seconds", .text (Text.ofInt s)), ("nanos", .int n)]) = .ok (some i)
      ∧ stamp.Shaped ∧ stamp.fraction.length ∈ wireWidths
      ∧ ∀ digits : List Digit, digits.length ∈ wireWidths → Stamp.nanosOf digits = i.nanos →
          stamp.fraction.length ≤ digits.length := by
  have hmake : ∃ i : Instant, make s n = .ok i ∧ i.seconds = s ∧ (i.nanos : Int) = n := by
    unfold make
    rw [dif_pos hn]
    exact ⟨_, rfl, rfl, Int.toNat_of_nonneg hn.1⟩
  obtain ⟨i, hmake, rfl, rfl⟩ := hmake
  obtain ⟨t, ht⟩ := calendarTime_of_range hs
  have hwidth := length_wireDigits_mem i.nanos
  have hshaped : (t.stamp (wireDigits i.nanos)).Shaped :=
    t.stamp_shaped (by
      unfold wireWidths at hwidth
      simp only [List.mem_cons, List.not_mem_nil, or_false] at hwidth
      omega)
  refine ⟨i, t.stamp (wireDigits i.nanos), hmake, rfl, rfl, toWire_eq ht, ?_, ?_, ?_, hshaped,
    hwidth, ?_⟩
  · show Except.ok (ofText? _) = _
    rw [Stamp.ofText?_text hshaped, instant?_stamp_wireDigits ht]
  · exact ofWire_object hs rfl rfl rfl rfl
  · exact ofWire_object hs rfl (toInt_text_ofInt hs) rfl rfl
  · intro digits hdigits hnanos
    show (wireDigits i.nanos).length ≤ digits.length
    rw [← hnanos]
    exact length_wireDigits_le hdigits

/-- A microsecond into the calendar, six digits of fraction are written and read. -/
theorem ofWire_toWire_firstSecond :
    (minSeconds ≤ minSeconds ∧ minSeconds ≤ maxSeconds)
      ∧ ((0 : Int) ≤ 1000 ∧ (1000 : Int) < nanosPerSecond)
      ∧ (⟨minSeconds, 1000, by decide⟩ : Instant).toWire
        = .ok (Text.ofString "0001-01-01T00:00:00.000001Z")
      ∧ ofWire (.text "0001-01-01T00:00:00.000001Z") = .ok (some ⟨minSeconds, 1000, by decide⟩)
      ∧ ofWire (.object [("seconds", .text "-62135596800"), ("nanos", .int 1000)])
        = .ok (some ⟨minSeconds, 1000, by decide⟩) := by
  have hs : minSeconds ≤ minSeconds ∧ minSeconds ≤ maxSeconds := by decide
  have hn : (0 : Int) ≤ 1000 ∧ (1000 : Int) < nanosPerSecond := by decide
  obtain ⟨i, stamp, hmake, -, -, hwire, hread, -, hpair, -⟩ := ofWire_toWire hs hn
  obtain rfl := Except.ok.inj hmake
  have hwritten : (⟨minSeconds, 1000, by decide⟩ : Instant).toWire
      = .ok (Text.ofString "0001-01-01T00:00:00.000001Z") := by rfl
  have htext := Except.ok.inj (hwire.symm.trans hwritten)
  rw [htext] at hread
  exact ⟨hs, hn, hwritten, hread, hpair⟩

end Instant

end JobWatch
