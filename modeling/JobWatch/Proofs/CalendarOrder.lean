/-
  JobWatch.Proofs.CalendarOrder
  ─────────────────────────────
  **DAYS AND SECONDS OF THE CALENDAR, COUNTED AND COMPARED.**

  The day number of a date is a closed form and a short sum.  Here it is what
  it should be: the lengths of all years and months before the date, added
  up, so that the days since 1970 can be said without any closed form.

  Dates and times are compared number by number, the year first.  Their
  counts of days and seconds stand in the same order, so a count belongs to
  one date or time only:

      daysSince1970_eq       — the days since 1970 are a sum of lengths, of
                               the years and months between or before
      dayNumber_lt_of_lt     — a later date has a larger day number
      epochSeconds_lt_iff    — times of the calendar stand in the order of
                               their numbers
      epochSeconds_eq_iff    — and are as far from 1970 only if those are
                               the same
-/
import Mathlib.Algebra.BigOperators.Intervals
import Mathlib.Algebra.Order.BigOperators.Group.Finset
import JobWatch.Proofs.DigitOrder
import JobWatch.Time.Instant

namespace JobWatch

/-! ## §1. Sums of lengths. -/

namespace Calendar

/-- The days before a year are the lengths of the years before it. -/
theorem daysBeforeYear_eq_sum {y : Nat} (h : 1 ≤ y) :
    daysBeforeYear y = ∑ k ∈ Finset.Ico 1 y, yearLength k := by
  induction y, h using Nat.le_induction with
  | base => rfl
  | succ y hy ih => rw [daysBeforeYear_succ hy, ih, Finset.sum_Ico_succ_top hy]

/-- A month begins when the one before it ends. -/
theorem daysBeforeMonth_succ (leap : Bool) {m : Nat} (h : 1 ≤ m) :
    daysBeforeMonth leap (m + 1) = daysBeforeMonth leap m + monthLength leap m := by
  obtain ⟨k, rfl⟩ : ∃ k, m = k + 1 := ⟨m - 1, by omega⟩
  show ((List.range (k + 1)).map fun i => monthLength leap (i + 1)).sum
    = ((List.range k).map fun i => monthLength leap (i + 1)).sum + monthLength leap (k + 1)
  rw [List.sum_range_succ]

/-- The days of the year before a month are the lengths of the months before it. -/
theorem daysBeforeMonth_eq_sum (leap : Bool) {m : Nat} (h : 1 ≤ m) :
    daysBeforeMonth leap m = ∑ k ∈ Finset.Ico 1 m, monthLength leap k := by
  induction m, h using Nat.le_induction with
  | base => rfl
  | succ m hm ih => rw [daysBeforeMonth_succ leap hm, ih, Finset.sum_Ico_succ_top hm]

/-- What is added up from 1 grows by all that comes on the way. -/
theorem sum_add_le_sum (f : Nat → Nat) {m n : Nat} (hm : 1 ≤ m) (h : m < n) :
    ∑ k ∈ Finset.Ico 1 m, f k + f m ≤ ∑ k ∈ Finset.Ico 1 n, f k := by
  rw [← Finset.sum_Ico_succ_top hm]
  exact Finset.sum_le_sum_of_subset (Finset.Ico_subset_Ico_right h)

/-- A year ends before a later one begins. -/
theorem daysBeforeYear_add_le {y z : Nat} (hy : 1 ≤ y) (h : y < z) :
    daysBeforeYear y + yearLength y ≤ daysBeforeYear z := by
  rw [daysBeforeYear_eq_sum hy, daysBeforeYear_eq_sum (show 1 ≤ z by omega)]
  exact sum_add_le_sum yearLength hy h

/-- A month ends before a later one begins. -/
theorem daysBeforeMonth_add_le_of_lt (leap : Bool) {m n : Nat} (hm : 1 ≤ m) (h : m < n) :
    daysBeforeMonth leap m + monthLength leap m ≤ daysBeforeMonth leap n := by
  rw [daysBeforeMonth_eq_sum leap hm, daysBeforeMonth_eq_sum leap (show 1 ≤ n by omega)]
  exact sum_add_le_sum (monthLength leap) hm h

/-- The days up to the end of a month lie in the year. -/
theorem daysBeforeMonth_add_le :
    ∀ leap : Bool, ∀ m < 13,
      daysBeforeMonth leap m + monthLength leap m ≤ if leap then 366 else 365 := by
  decide

/-- How many days a date lies behind 1 January 1970; so many before it, if negative.  The years
between the two are added up, then the months before that of the date, then the days. -/
def daysSince1970 (year month day : Nat) : Int :=
  ((∑ y ∈ Finset.Ico 1970 year, yearLength y : Nat) : Int)
    - ((∑ y ∈ Finset.Ico year 1970, yearLength y : Nat) : Int)
    + ((∑ m ∈ Finset.Ico 1 month, monthLength (isLeap year) m : Nat) : Int)
    + ((day : Int) - 1)

/-- From one year to another it is as far as the years between them are long. -/
theorem daysBeforeYear_add_sum {y z : Nat} (hy : 1 ≤ y) (hz : 1 ≤ z) :
    daysBeforeYear y + ∑ k ∈ Finset.Ico y z, yearLength k
      = daysBeforeYear z + ∑ k ∈ Finset.Ico z y, yearLength k := by
  rw [daysBeforeYear_eq_sum hy, daysBeforeYear_eq_sum hz]
  rcases Nat.le_total y z with h | h
  · rw [Finset.sum_Ico_consecutive yearLength hy h, Finset.Ico_eq_empty_of_le h,
      Finset.sum_empty, Nat.add_zero]
  · rw [Finset.sum_Ico_consecutive yearLength hz h, Finset.Ico_eq_empty_of_le h,
      Finset.sum_empty, Nat.add_zero]

end Calendar

/-! ## §2. Dates. -/

namespace Date

open Calendar

/-- The numbers of a date, in the order in which they are compared. -/
def numbers (d : Date) : List Nat := [d.year, d.month, d.day]

theorem length_numbers (d e : Date) : d.numbers.length = e.numbers.length := rfl

theorem numbers_injective {d e : Date} (h : d.numbers = e.numbers) : d = e := by
  obtain ⟨year, month, day, hd⟩ := d
  obtain ⟨year', month', day', he⟩ := e
  unfold numbers at h
  simp only [List.cons.injEq, and_true] at h
  obtain ⟨rfl, rfl, rfl⟩ := h
  rfl

/-- **The days since 1970 are a sum of lengths**, whether the date lies before or behind. -/
theorem daysSince1970_eq (d : Date) :
    (d.dayNumber : Int) - CalendarTime.epochDay = daysSince1970 d.year d.month d.day := by
  obtain ⟨hyear, -, hmonth, -, hday, -⟩ := d.isDate
  have hsum := daysBeforeYear_add_sum hyear (show 1 ≤ 1970 by decide)
  have hepoch : daysBeforeYear 1970 = CalendarTime.epochDay := by decide
  rw [dayNumber, daysBeforeMonth_eq_sum _ hmonth]
  unfold daysSince1970
  omega

/-- A date lies in its month, which lies in its year. -/
theorem dayNumber_lt_of_month (d : Date) :
    d.dayNumber < daysBeforeYear d.year
      + (daysBeforeMonth (isLeap d.year) d.month + monthLength (isLeap d.year) d.month) := by
  obtain ⟨-, -, -, -, hday, hlast⟩ := d.isDate
  unfold dayNumber
  omega

theorem dayNumber_lt_of_year (d : Date) :
    d.dayNumber < daysBeforeYear d.year + yearLength d.year := by
  obtain ⟨-, -, -, hmonth, -, -⟩ := d.isDate
  have hin := d.dayNumber_lt_of_month
  have hend := daysBeforeMonth_add_le (isLeap d.year) d.month (by omega)
  unfold yearLength
  omega

/-- **A later date has a larger day number.** -/
theorem dayNumber_lt_of_lt {d e : Date} (h : d.numbers < e.numbers) :
    d.dayNumber < e.dayNumber := by
  obtain ⟨hyear, -, hmonth, -, hday, -⟩ := d.isDate
  unfold numbers at h
  rw [List.cons_lt_cons_iff, List.cons_lt_cons_iff, List.cons_lt_cons_iff] at h
  rcases h with hlt | ⟨heq, hlt | ⟨heq', hlt | ⟨-, hnil⟩⟩⟩
  · -- the year of `d` is over when that of `e` begins
    have hin := d.dayNumber_lt_of_year
    have hnext := daysBeforeYear_add_le hyear hlt
    have hle : daysBeforeYear e.year ≤ e.dayNumber := by
      unfold dayNumber
      omega
    omega
  · -- in one year, the month of `d` is over when that of `e` begins
    have hin := d.dayNumber_lt_of_month
    have hnext := daysBeforeMonth_add_le_of_lt (isLeap d.year) hmonth hlt
    have hle : daysBeforeYear e.year + daysBeforeMonth (isLeap e.year) e.month
        ≤ e.dayNumber := by
      unfold dayNumber
      omega
    rw [← heq] at hle
    omega
  · unfold dayNumber
    rw [heq, heq']
    omega
  · exact absurd hnil (List.lt_irrefl [])

/-- No date lies behind the last day of the calendar. -/
theorem dayNumber_lt (d : Date) : d.dayNumber < dayCount := by
  obtain ⟨hyear, hlast, -⟩ := d.isDate
  have hin := d.dayNumber_lt_of_year
  have hnext := daysBeforeYear_add_le hyear (show d.year < 10000 by omega)
  have hend : daysBeforeYear 10000 = dayCount := by decide
  omega

end Date

/-! ## §3. Times of the calendar. -/

namespace CalendarTime

/-- The numbers of a time to the second, in the order in which they are compared. -/
def numbers (t : CalendarTime) : List Nat :=
  [t.date.year, t.date.month, t.date.day, t.hour.val, t.minute.val, t.second.val]

theorem numbers_eq (t : CalendarTime) :
    t.numbers = t.date.numbers ++ [t.hour.val, t.minute.val, t.second.val] := rfl

theorem secondOfDay_lt (t : CalendarTime) : t.secondOfDay < 86400 := by
  have hhour := t.hour.isLt
  have hminute := t.minute.isLt
  have hsecond := t.second.isLt
  unfold secondOfDay
  omega

/-- The seconds since 1970, with the days as a sum of lengths. -/
theorem epochSeconds_eq (t : CalendarTime) :
    t.epochSeconds
      = 86400 * Calendar.daysSince1970 t.date.year t.date.month t.date.day
        + 3600 * t.hour.val + 60 * t.minute.val + t.second.val := by
  rw [← t.date.daysSince1970_eq]
  unfold epochSeconds secondOfDay
  omega

theorem secondOfDay_lt_of_lt {t u : CalendarTime}
    (h : [t.hour.val, t.minute.val, t.second.val] < [u.hour.val, u.minute.val, u.second.val]) :
    t.secondOfDay < u.secondOfDay := by
  have hminute := t.minute.isLt
  have hsecond := t.second.isLt
  rw [List.cons_lt_cons_iff, List.cons_lt_cons_iff, List.cons_lt_cons_iff] at h
  unfold secondOfDay
  rcases h with hlt | ⟨heq, hlt | ⟨heq', hlt | ⟨-, hnil⟩⟩⟩
  · omega
  · omega
  · omega
  · exact absurd hnil (List.lt_irrefl [])

/-- A later time is further from the start of the calendar. -/
theorem epochSeconds_lt_of_lt {t u : CalendarTime} (h : t.numbers < u.numbers) :
    t.epochSeconds < u.epochSeconds := by
  have ht := t.secondOfDay_lt
  rw [numbers_eq, numbers_eq, append_lt_append_iff _ _ (Date.length_numbers _ _)] at h
  unfold epochSeconds
  rcases h with hdate | ⟨hdate, htime⟩
  · -- a day or more lies between them, and a time of day is less than that
    have hday := Date.dayNumber_lt_of_lt hdate
    omega
  · have hsecond := secondOfDay_lt_of_lt htime
    rw [Date.numbers_injective hdate]
    omega

theorem epochSeconds_eq_of_eq {t u : CalendarTime} (h : t.numbers = u.numbers) :
    t.epochSeconds = u.epochSeconds := by
  rw [numbers_eq, numbers_eq] at h
  obtain ⟨hdate, htime⟩ := List.append_inj h (Date.length_numbers _ _)
  simp only [List.cons.injEq, and_true] at htime
  obtain ⟨hhour, hminute, hsecond⟩ := htime
  unfold epochSeconds secondOfDay
  rw [Date.numbers_injective hdate, hhour, hminute, hsecond]

/-- **Times of the calendar stand in the order of their numbers.** -/
theorem epochSeconds_lt_iff (t u : CalendarTime) :
    t.epochSeconds < u.epochSeconds ↔ t.numbers < u.numbers := by
  constructor
  · intro h
    rcases lt_trichotomy t.numbers u.numbers with hlt | heq | hgt
    · exact hlt
    · have hsame := epochSeconds_eq_of_eq heq
      omega
    · have hless := epochSeconds_lt_of_lt hgt
      omega
  · exact epochSeconds_lt_of_lt

/-- **They are as far from 1970 only if their numbers are the same.** -/
theorem epochSeconds_eq_iff (t u : CalendarTime) :
    t.epochSeconds = u.epochSeconds ↔ t.numbers = u.numbers := by
  constructor
  · intro h
    rcases lt_trichotomy t.numbers u.numbers with hlt | heq | hgt
    · have hless := epochSeconds_lt_of_lt hlt
      omega
    · exact heq
    · have hless := epochSeconds_lt_of_lt hgt
      omega
  · exact epochSeconds_eq_of_eq

end CalendarTime

/-- A time of the calendar lies within its first and its last second. -/
theorem Instant.epochSeconds_range (t : CalendarTime) :
    minSeconds ≤ t.epochSeconds ∧ t.epochSeconds ≤ maxSeconds := by
  have hday := t.date.dayNumber_lt
  have hsecond := t.secondOfDay_lt
  unfold Calendar.dayCount at hday
  unfold minSeconds maxSeconds CalendarTime.epochSeconds CalendarTime.epochDay
  omega

end JobWatch
