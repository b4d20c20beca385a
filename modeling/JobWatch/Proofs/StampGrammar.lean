/-
  JobWatch.Proofs.StampGrammar
  ────────────────────────────
  **WHICH TEXTS ARE TIMESTAMPS, AND WHAT THEY MEAN.**

  A timestamp is a text of one shape, `YYYY-MM-DDTHH:MM:SS`, at will with a
  point and one to nine digits, then `Z`, whose digits name a day of the
  calendar and a time of that day.  The shape is stated here as a relation
  between texts and stamps, the meaning as a sum of days and seconds; the
  reader meets both, in both directions:

      read?_eq_some_iff      — a stamp is read from the texts that spell it
      read?_text             — in ASCII digits, every stamp is spelled
      instant?_eq_some_iff   — the digits of a stamp are the numbers of a time
                               of the calendar, or mean nothing
      isTime_iff             — when there is such a time
      ofWire_text_iff        — a text is an instant exactly when it spells
                               such a stamp, and then the instant it names
-/
import JobWatch.Proofs.CalendarOrder
import JobWatch.Proofs.DigitText
import JobWatch.Time.Wire

namespace JobWatch

namespace Stamp

/-! ## §1. The shape. -/

/-- A stamp has as many digits in each place as the shape of a timestamp asks for. -/
structure Shaped (s : Stamp) : Prop where
  year : s.year.length = 4
  month : s.month.length = 2
  day : s.day.length = 2
  hour : s.hour.length = 2
  minute : s.minute.length = 2
  second : s.second.length = 2
  fraction : s.fraction.length ≤ 9

/-- What may stand between the seconds and the `Z`, and the digits that it shows. -/
inductive ShowsFraction : Text → List Digit → Prop where
  /-- There is no fraction. -/
  | absent : ShowsFraction [] []
  /-- A point stands before one digit or more. -/
  | pointed {t : Text} {ds : List Digit} :
      Text.Shows t ds → ds ≠ [] → ShowsFraction (CodePoint.ofChar '.' :: t) ds

/-- A text spells a stamp: it has the shape of a timestamp, and shows the digits of the stamp in
their places. -/
inductive Spells : Text → Stamp → Prop where
  /-- `YYYY-MM-DDTHH:MM:SS`, the fraction, then `Z`. -/
  | intro {s : Stamp} {year month day hour minute second fraction : Text} (shaped : s.Shaped)
      (hyear : year.Shows s.year) (hmonth : month.Shows s.month) (hday : day.Shows s.day)
      (hhour : hour.Shows s.hour) (hminute : minute.Shows s.minute)
      (hsecond : second.Shows s.second) (hfraction : ShowsFraction fraction s.fraction) :
      Spells (year ++ CodePoint.ofChar '-' :: month ++ CodePoint.ofChar '-' :: day
        ++ CodePoint.ofChar 'T' :: hour ++ CodePoint.ofChar ':' :: minute
        ++ CodePoint.ofChar ':' :: second ++ fraction ++ [CodePoint.ofChar 'Z']) s

theorem fraction?_of_shows {shown : Text} {ds : List Digit} (h : ShowsFraction shown ds)
    (hlength : ds.length ≤ 9) : fraction? (shown ++ [CodePoint.ofChar 'Z']) = some ds := by
  cases h with
  | absent => decide
  | @pointed digits _ hshows hne =>
    have hspan := Text.spanDigits_of_shows hshows
      (show (CodePoint.ofChar 'Z').decimalDigit? = none by decide) []
    have hone : 1 ≤ ds.length := List.length_pos_iff.mpr hne
    unfold fraction?
    rw [List.cons_append, mark?_cons_self]
    simp only [hspan]
    exact if_pos ⟨hone, hlength, trivial⟩

/-- The end of a stamp is read where it is spelled, and nowhere else. -/
theorem fraction?_eq_some_iff {t : Text} {ds : List Digit} :
    fraction? t = some ds
      ↔ ∃ shown, ShowsFraction shown ds ∧ ds.length ≤ 9
        ∧ t = shown ++ [CodePoint.ofChar 'Z'] := by
  constructor
  · intro h
    unfold fraction? at h
    split at h
    next =>
      split at h
      next hz =>
        obtain rfl := Option.some.inj h
        exact ⟨[], .absent, by decide, hz⟩
      next => exact absurd h (by simp)
    next behind hpoint =>
      obtain rfl := mark?_eq_some_iff.mp hpoint
      obtain ⟨shown, hshown, hbehind⟩ := Text.exists_shows_spanDigits behind
      simp only at h
      split at h
      next hrest =>
        obtain rfl := Option.some.inj h
        rw [hrest.2.2] at hbehind
        exact ⟨_, .pointed hshown (List.length_pos_iff.mp hrest.1), hrest.2.1,
          congrArg _ hbehind⟩
      next => exact absurd h (by simp)
  · rintro ⟨shown, hshown, hlength, rfl⟩
    exact fraction?_of_shows hshown hlength

/-- One place of a stamp: so many digits, the mark behind them, and then the rest. -/
def place? (n : Nat) (c : CodePoint) (t : Text) (next : List Digit → Text → Option Stamp) :
    Option Stamp :=
  (digits? n t).bind fun r => (mark? c r.2).bind (next r.1)

theorem place?_eq_some_iff {n : Nat} {c : CodePoint} {t : Text} {s : Stamp}
    {next : List Digit → Text → Option Stamp} :
    place? n c t next = some s
      ↔ ∃ shown ds rest, Text.Shows shown ds ∧ ds.length = n ∧ t = shown ++ c :: rest
        ∧ next ds rest = some s := by
  constructor
  · intro h
    obtain ⟨⟨ds, behind⟩, hdigits, hbehind⟩ := Option.bind_eq_some_iff.mp h
    obtain ⟨rest, hmark, hnext⟩ := Option.bind_eq_some_iff.mp hbehind
    obtain ⟨shown, hshown, hlength, ht⟩ := digits?_eq_some_iff.mp hdigits
    obtain rfl := mark?_eq_some_iff.mp hmark
    exact ⟨shown, ds, rest, hshown, hlength, ht, hnext⟩
  · rintro ⟨shown, ds, rest, hshown, hlength, rfl, hnext⟩
    unfold place?
    rw [digits?_of_shows hshown hlength, Option.bind_some, mark?_cons_self, Option.bind_some]
    exact hnext

/-- A stamp is read place by place. -/
theorem read?_eq (t : Text) :
    read? t
      = place? 4 '-' t fun year t =>
        place? 2 '-' t fun month t =>
        place? 2 'T' t fun day t =>
        place? 2 ':' t fun hour t =>
        place? 2 ':' t fun minute t =>
        (digits? 2 t).bind fun second =>
        (fraction? second.2).bind fun fraction =>
        some { year, month, day, hour, minute, second := second.1, fraction } := rfl

/-- **A stamp is read from the texts that spell it**, and from no others. -/
theorem read?_eq_some_iff {t : Text} {s : Stamp} : read? t = some s ↔ Spells t s := by
  constructor
  · intro h
    rw [read?_eq] at h
    -- what is shown in each place, and what is left to be read
    obtain ⟨year, years, _, hyear, hyears, rfl, hfromMonth⟩ := place?_eq_some_iff.mp h
    obtain ⟨month, months, _, hmonth, hmonths, rfl, hfromDay⟩ :=
      place?_eq_some_iff.mp hfromMonth
    obtain ⟨day, days, _, hday, hdays, rfl, hfromHour⟩ := place?_eq_some_iff.mp hfromDay
    obtain ⟨hour, hours, _, hhour, hhours, rfl, hfromMinute⟩ := place?_eq_some_iff.mp hfromHour
    obtain ⟨minute, minutes, _, hminute, hminutes, rfl, hfromSecond⟩ :=
      place?_eq_some_iff.mp hfromMinute
    obtain ⟨⟨seconds, behind⟩, hdigits, hfromEnd⟩ := Option.bind_eq_some_iff.mp hfromSecond
    obtain ⟨digits, hend, hs⟩ := Option.bind_eq_some_iff.mp hfromEnd
    obtain ⟨second, hsecond, hseconds, rfl⟩ := digits?_eq_some_iff.mp hdigits
    obtain ⟨fraction, hfraction, hlength, rfl⟩ := fraction?_eq_some_iff.mp hend
    obtain rfl := Option.some.inj hs
    have hshaped : Shaped ⟨years, months, days, hours, minutes, seconds, digits⟩ :=
      ⟨hyears, hmonths, hdays, hhours, hminutes, hseconds, hlength⟩
    have hspells := Spells.intro hshaped hyear hmonth hday hhour hminute hsecond hfraction
    simpa only [List.append_assoc, List.cons_append] using hspells
  · intro h
    obtain ⟨hshaped, hyear, hmonth, hday, hhour, hminute, hsecond, hfraction⟩ := h
    unfold read?
    simp only [List.append_assoc, List.cons_append, digits?_of_shows hyear hshaped.year,
      digits?_of_shows hmonth hshaped.month, digits?_of_shows hday hshaped.day,
      digits?_of_shows hhour hshaped.hour, digits?_of_shows hminute hshaped.minute,
      digits?_of_shows hsecond hshaped.second, mark?_cons_self,
      fraction?_of_shows hfraction hshaped.fraction, Option.bind_eq_bind, Option.bind_some]

/-! ## §2. Stamps in ASCII digits. -/

/-- A fraction behind its point, or nothing when it has no digits. -/
def pointed : List Digit → Text
  | [] => []
  | d :: ds => CodePoint.ofChar '.' :: Text.ofDigits (d :: ds)

/-- The stamp in ASCII digits. -/
def text (s : Stamp) : Text :=
  Text.ofDigits s.year ++ CodePoint.ofChar '-' :: Text.ofDigits s.month
    ++ CodePoint.ofChar '-' :: Text.ofDigits s.day
    ++ CodePoint.ofChar 'T' :: Text.ofDigits s.hour
    ++ CodePoint.ofChar ':' :: Text.ofDigits s.minute
    ++ CodePoint.ofChar ':' :: Text.ofDigits s.second
    ++ pointed s.fraction ++ [CodePoint.ofChar 'Z']

theorem showsFraction_pointed (ds : List Digit) : ShowsFraction (pointed ds) ds := by
  cases ds with
  | nil => exact .absent
  | cons d ds => exact .pointed (Text.shows_ofDigits (d :: ds)) (List.cons_ne_nil d ds)

/-- **In ASCII digits, every stamp is spelled**, and so it is read. -/
theorem read?_text {s : Stamp} (h : s.Shaped) : read? s.text = some s :=
  read?_eq_some_iff.mpr (.intro h (Text.shows_ofDigits _) (Text.shows_ofDigits _)
    (Text.shows_ofDigits _) (Text.shows_ofDigits _) (Text.shows_ofDigits _)
    (Text.shows_ofDigits _) (showsFraction_pointed _))

/-- A stamp begins with a digit and ends with a letter, so there are no blanks to trim. -/
theorem trim_text {s : Stamp} (h : s.Shaped) : s.text.trim = s.text := by
  obtain ⟨d, ds, hyear⟩ : ∃ d ds, s.year = d :: ds := by
    cases hy : s.year with
    | nil =>
      have hlength := h.year
      rw [hy] at hlength
      exact absurd hlength (by simp)
    | cons d ds => exact ⟨d, ds, rfl⟩
  refine Text.trimWhile_eq_self ?_ ?_ ?_
  · exact List.append_ne_nil_of_right_ne_nil _ (by simp)
  · intro c hc
    unfold text at hc
    rw [hyear, Text.ofDigits_cons] at hc
    simp only [List.cons_append, List.head?_cons, Option.mem_def, Option.some.injEq] at hc
    rw [← hc]
    exact Text.isBlank_ofDigit d
  · intro c hc
    unfold text at hc
    rw [List.getLast?_concat, Option.mem_some_iff] at hc
    rw [← hc]
    decide

/-- Reading a stamp that is written gives what its digits mean. -/
theorem ofText?_text {s : Stamp} (h : s.Shaped) : Instant.ofText? s.text = s.instant? := by
  unfold Instant.ofText?
  rw [trim_text h, read?_text h]
  rfl

end Stamp

/-! ## §3. Times from numbers. -/

theorem Date.make?_self (d : Date) : Date.make? d.year d.month d.day = some d := dif_pos d.isDate

theorem Date.numbers_of_make? {year month day : Nat} {d : Date}
    (h : Date.make? year month day = some d) : d.numbers = [year, month, day] := by
  unfold Date.make? at h
  split at h
  next =>
    obtain rfl := Option.some.inj h
    rfl
  next => exact absurd h (by simp)

namespace CalendarTime

theorem bounded?_val {bound : Nat} (n : Fin bound) : bounded? bound (n.val : Int) = some n :=
  dif_pos ⟨Int.natCast_nonneg _, Int.ofNat_lt.mpr n.isLt⟩

theorem val_of_bounded? {bound n : Nat} {k : Fin bound} (h : bounded? bound (n : Int) = some k) :
    k.val = n := by
  unfold bounded? at h
  split at h
  next => exact congrArg Fin.val (Option.some.inj h).symm
  next => exact absurd h (by simp)

/-- A calendar time is made from its own numbers. -/
theorem make?_self (t : CalendarTime) :
    make? t.date.year t.date.month t.date.day t.hour.val t.minute.val t.second.val t.micro.val
      = some t := by
  unfold make?
  simp only [Int.toNat_natCast, Date.make?_self, bounded?_val, Option.bind_eq_bind,
    Option.bind_some]

/-- What is made from numbers has those numbers. -/
theorem numbers_of_make? {year month day hour minute second micro : Nat} {t : CalendarTime}
    (h : make? year month day hour minute second micro = some t) :
    t.numbers = [year, month, day, hour, minute, second] ∧ t.micro.val = micro := by
  obtain ⟨date, hdate, h⟩ := Option.bind_eq_some_iff.mp h
  obtain ⟨hours, hhour, h⟩ := Option.bind_eq_some_iff.mp h
  obtain ⟨minutes, hminute, h⟩ := Option.bind_eq_some_iff.mp h
  obtain ⟨seconds, hsecond, h⟩ := Option.bind_eq_some_iff.mp h
  obtain ⟨micros, hmicro, h⟩ := Option.bind_eq_some_iff.mp h
  obtain rfl := Option.some.inj h
  refine ⟨?_, val_of_bounded? hmicro⟩
  rw [numbers_eq, Date.numbers_of_make? hdate, val_of_bounded? hhour, val_of_bounded? hminute,
    val_of_bounded? hsecond]
  rfl

end CalendarTime

/-! ## §4. The meaning. -/

namespace Stamp

/-- The numbers of a stamp to the second, in the order in which they stand. -/
def numbers (s : Stamp) : List Nat :=
  [number s.year, number s.month, number s.day, number s.hour, number s.minute, number s.second]

theorem numbers_eq_iff {s : Stamp} {t : CalendarTime} :
    t.numbers = s.numbers
      ↔ t.date.year = number s.year ∧ t.date.month = number s.month ∧ t.date.day = number s.day
        ∧ t.hour.val = number s.hour ∧ t.minute.val = number s.minute
        ∧ t.second.val = number s.second := by
  unfold CalendarTime.numbers numbers
  simp only [List.cons.injEq, and_true]

/-- **The digits of a stamp are the numbers of a time of the calendar**, or they mean nothing;
the fraction counts as nanoseconds. -/
theorem instant?_eq_some_iff {s : Stamp} {i : Instant} :
    s.instant? = some i
      ↔ ∃ t : CalendarTime, t.numbers = s.numbers
        ∧ i = ⟨t.epochSeconds, nanosOf s.fraction, nanosOf_lt s.fraction⟩ := by
  constructor
  · intro h
    obtain ⟨t, hmake, hi⟩ := Option.map_eq_some_iff.mp h
    exact ⟨t, (CalendarTime.numbers_of_make? hmake).1, hi.symm⟩
  · rintro ⟨t, hnumbers, rfl⟩
    obtain ⟨hyear, hmonth, hday, hhour, hminute, hsecond⟩ := numbers_eq_iff.mp hnumbers
    -- a stamp has no microseconds of its own, its fraction is counted beside the time
    have hmake : CalendarTime.make? t.date.year t.date.month t.date.day t.hour.val t.minute.val
        t.second.val 0 = some { t with micro := 0 } :=
      CalendarTime.make?_self { t with micro := 0 }
    unfold instant?
    rw [← hyear, ← hmonth, ← hday, ← hhour, ← hminute, ← hsecond, hmake]
    rfl

/-- The digits of a stamp name a day of the calendar, years 1 to 9999, and a time of that day. -/
structure IsTime (s : Stamp) : Prop where
  year : 1 ≤ number s.year ∧ number s.year ≤ 9999
  month : 1 ≤ number s.month ∧ number s.month ≤ 12
  day : 1 ≤ number s.day
    ∧ number s.day ≤ Calendar.monthLength (Calendar.isLeap (number s.year)) (number s.month)
  hour : number s.hour < 24
  minute : number s.minute < 60
  second : number s.second < 60

/-- **There is such a time** exactly when the digits keep to the calendar and the clock. -/
theorem isTime_iff {s : Stamp} : s.IsTime ↔ ∃ t : CalendarTime, t.numbers = s.numbers := by
  constructor
  · intro h
    have hdate : Calendar.IsDate (number s.year) (number s.month) (number s.day) :=
      ⟨h.year.1, h.year.2, h.month.1, h.month.2, h.day.1, h.day.2⟩
    exact ⟨⟨⟨_, _, _, hdate⟩, ⟨_, h.hour⟩, ⟨_, h.minute⟩, ⟨_, h.second⟩, 0⟩, rfl⟩
  · rintro ⟨t, hnumbers⟩
    obtain ⟨hyear, hmonth, hday, hhour, hminute, hsecond⟩ := numbers_eq_iff.mp hnumbers
    obtain ⟨hfirst, hlast, hmonths, hmonths', hdays, hdays'⟩ := t.date.isDate
    rw [hyear] at hfirst hlast hdays'
    rw [hmonth] at hmonths hmonths' hdays'
    rw [hday] at hdays hdays'
    exact ⟨⟨hfirst, hlast⟩, ⟨hmonths, hmonths'⟩, ⟨hdays, hdays'⟩, hhour ▸ t.hour.isLt,
      hminute ▸ t.minute.isLt, hsecond ▸ t.second.isLt⟩

/-- The seconds from the start of 1970 to the time that the digits name, the days counted by the
lengths of years and months. -/
def secondsSince1970 (s : Stamp) : Int :=
  86400 * Calendar.daysSince1970 (number s.year) (number s.month) (number s.day)
    + 3600 * number s.hour + 60 * number s.minute + number s.second

theorem epochSeconds_of_numbers {s : Stamp} {t : CalendarTime} (h : t.numbers = s.numbers) :
    t.epochSeconds = s.secondsSince1970 := by
  obtain ⟨hyear, hmonth, hday, hhour, hminute, hsecond⟩ := numbers_eq_iff.mp h
  rw [t.epochSeconds_eq, hyear, hmonth, hday, hhour, hminute, hsecond]
  rfl

/-- The digits of a fraction count for as many nanoseconds as their place says. -/
theorem nanosOf_eq {ds : List Digit} (h : ds.length ≤ 9) :
    nanosOf ds = number ds * 10 ^ (9 - ds.length) := by
  -- of nine digits or fewer none is cut off, and zeros make up for those that are missing
  unfold nanosOf
  rw [List.take_append, List.take_of_length_le h, List.take_replicate,
    Nat.min_eq_left (Nat.sub_le 9 _), number_append_zeros]

theorem Spells.shaped {t : Text} {s : Stamp} (h : Spells t s) : s.Shaped := by
  obtain ⟨hshaped⟩ := h
  exact hshaped

/-- A text spells one stamp at most. -/
theorem Spells.unique {t : Text} {s s' : Stamp} (h : Spells t s) (h' : Spells t s') : s = s' :=
  Option.some.inj ((read?_eq_some_iff.mpr h).symm.trans (read?_eq_some_iff.mpr h'))

end Stamp

/-! ## §5. Texts as instants. -/

namespace Instant

/-- A text is an instant when, trimmed, it spells a stamp that means that instant. -/
theorem ofWire_text_eq_iff {t : Text} {i : Instant} :
    ofWire (.text t) = .ok (some i) ↔ ∃ s, Stamp.Spells t.trim s ∧ s.instant? = some i := by
  show Except.ok ((Stamp.read? t.trim).bind Stamp.instant?) = .ok (some i) ↔ _
  rw [Except.ok.injEq, Option.bind_eq_some_iff]
  simp only [Stamp.read?_eq_some_iff]

/-- **A text is a timestamp exactly when it has the shape of one and its digits name a time of
the calendar**; it is never an error.  Blanks at its ends do not count.  What it then means is so
many days since 1970, by the lengths of years and months, so many hours, minutes and seconds, and
the fraction in nanoseconds. -/
theorem ofWire_text_iff (t : Text) :
    ∃ result : Option Instant, ofWire (.text t) = .ok result
      ∧ (result ≠ none ↔ ∃ s, Stamp.Spells t.trim s ∧ s.IsTime)
      ∧ ∀ i, result = some i → ∀ s, Stamp.Spells t.trim s →
          i.seconds = s.secondsSince1970
            ∧ i.nanos = number s.fraction * 10 ^ (9 - s.fraction.length) := by
  refine ⟨ofText? t, rfl, ?_, ?_⟩
  · rw [Option.ne_none_iff_exists']
    constructor
    · rintro ⟨i, hi⟩
      obtain ⟨s, hspells, hinstant⟩ := ofWire_text_eq_iff.mp (congrArg Except.ok hi)
      obtain ⟨time, hnumbers, -⟩ := Stamp.instant?_eq_some_iff.mp hinstant
      exact ⟨s, hspells, Stamp.isTime_iff.mpr ⟨time, hnumbers⟩⟩
    · rintro ⟨s, hspells, htime⟩
      obtain ⟨time, hnumbers⟩ := Stamp.isTime_iff.mp htime
      have hinstant := Stamp.instant?_eq_some_iff.mpr ⟨time, hnumbers, rfl⟩
      exact ⟨_, Except.ok.inj (ofWire_text_eq_iff.mpr ⟨s, hspells, hinstant⟩)⟩
  · intro i hi s hspells
    obtain ⟨s', hspells', hinstant⟩ := ofWire_text_eq_iff.mp (congrArg Except.ok hi)
    obtain rfl := hspells.unique hspells'
    obtain ⟨time, hnumbers, rfl⟩ := Stamp.instant?_eq_some_iff.mp hinstant
    exact ⟨Stamp.epochSeconds_of_numbers hnumbers, Stamp.nanosOf_eq hspells.shaped.fraction⟩

end Instant

end JobWatch
