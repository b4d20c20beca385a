/-
  JobWatch.Time.Calendar
  ──────────────────────
  **THE GREGORIAN CALENDAR, YEARS 1 TO 9999.**

  Days are numbered from 1 January of year 1, which is day 0. The day number
  of a date is found in closed form, and the date of a day number by guessing
  the year from the mean length of a year, which misses by one at most.

      daysBeforeYear_yearOfDay_le / lt_daysBeforeYear_succ
                          — the year found is the one that holds the day
      Date.ofDayNumber    — every number below `dayCount` is the day of a date
-/
namespace JobWatch

namespace Calendar

/-! ## §1. Years. -/

/-- A leap year. -/
def isLeap (y : Nat) : Bool := y % 4 == 0 && (y % 100 != 0 || y % 400 == 0)

/-- How many days a year has. -/
def yearLength (y : Nat) : Nat := if isLeap y then 366 else 365

/-- How many days lie between 1 January of year 1 and 1 January of year `y`. -/
def daysBeforeYear (y : Nat) : Nat :=
  let k := y - 1
  365 * k + k / 4 - k / 100 + k / 400

/-- A quotient grows by one exactly at the multiples of the divisor. -/
theorem succ_div_eq (k d : Nat) :
    (k + 1) / d = k / d + if (k + 1) % d = 0 then 1 else 0 := by
  rw [Nat.succ_div]
  simp only [Nat.dvd_iff_mod_eq_zero]

/-- A year begins when the one before it ends. -/
theorem daysBeforeYear_succ {y : Nat} (h : 1 ≤ y) :
    daysBeforeYear (y + 1) = daysBeforeYear y + yearLength y := by
  obtain ⟨k, rfl⟩ : ∃ k, y = k + 1 := ⟨y - 1, by omega⟩
  have hle : k / 100 ≤ 365 * k + k / 4 := by omega
  simp only [daysBeforeYear, yearLength, isLeap, Nat.add_sub_cancel,
    succ_div_eq k 4, succ_div_eq k 100, succ_div_eq k 400,
    Bool.and_eq_true, Bool.or_eq_true, beq_iff_eq, bne_iff_ne, ne_eq]
  have h4 : (k + 1) % 100 = 0 → (k + 1) % 4 = 0 := by omega
  have h100 : (k + 1) % 400 = 0 → (k + 1) % 100 = 0 := by omega
  by_cases c4 : (k + 1) % 4 = 0 <;> by_cases c100 : (k + 1) % 100 = 0 <;>
    by_cases c400 : (k + 1) % 400 = 0 <;>
    simp only [c4, c100, c400, not_true, not_false_iff, true_and, false_and, or_true, or_false,
      if_true, if_false, forall_const, imp_false] at * <;> omega

/-- The year that holds the day with number `n`. -/
def yearOfDay (n : Nat) : Nat :=
  let guess := 400 * n / 146097 + 1
  if daysBeforeYear (guess + 1) ≤ n then guess + 1 else guess

theorem one_le_yearOfDay (n : Nat) : 1 ≤ yearOfDay n := by
  simp only [yearOfDay]
  split <;> omega

theorem daysBeforeYear_yearOfDay_le (n : Nat) : daysBeforeYear (yearOfDay n) ≤ n := by
  simp only [yearOfDay]
  split
  · assumption
  · simp only [daysBeforeYear]
    omega

theorem lt_daysBeforeYear_succ (n : Nat) : n < daysBeforeYear (yearOfDay n + 1) := by
  simp only [yearOfDay]
  split
  · simp only [daysBeforeYear]
    omega
  · omega

/-! ## §2. Months. -/

/-- How many days a month has; no days if there is no such month. -/
def monthLength (leap : Bool) : Nat → Nat
  | 1 | 3 | 5 | 7 | 8 | 10 | 12 => 31
  | 4 | 6 | 9 | 11 => 30
  | 2 => if leap then 29 else 28
  | _ => 0

/-- How many days of the year lie before a month. -/
def daysBeforeMonth (leap : Bool) (m : Nat) : Nat :=
  ((List.range (m - 1)).map fun i => monthLength leap (i + 1)).foldr (· + ·) 0

/-- The month that holds the day `n` of a year, counted from 0: so many months have begun. -/
def monthOfDay (leap : Bool) (n : Nat) : Nat :=
  ((List.range 12).filter fun i => daysBeforeMonth leap (i + 1) ≤ n).length

/-- The month found for a day of the year is a month, and holds the day. -/
theorem monthOfDay_holds :
    ∀ leap : Bool, ∀ n < (if leap then 366 else 365),
      1 ≤ monthOfDay leap n ∧ monthOfDay leap n ≤ 12
        ∧ daysBeforeMonth leap (monthOfDay leap n) ≤ n
        ∧ n < daysBeforeMonth leap (monthOfDay leap n)
              + monthLength leap (monthOfDay leap n) := by
  decide +kernel

/-! ## §3. Dates. -/

/-- Year, month and day name a day of the calendar. -/
def IsDate (year month day : Nat) : Prop :=
  1 ≤ year ∧ year ≤ 9999 ∧ 1 ≤ month ∧ month ≤ 12
    ∧ 1 ≤ day ∧ day ≤ monthLength (isLeap year) month

instance (year month day : Nat) : Decidable (IsDate year month day) := by
  unfold IsDate
  infer_instance

/-- How many days the calendar has. -/
def dayCount : Nat := 3652059

end Calendar

open Calendar in
/-- A day of the calendar. -/
structure Date where
  /-- The year, from 1 to 9999. -/
  year : Nat
  /-- The month, from 1 to 12. -/
  month : Nat
  /-- The day of the month, from 1. -/
  day : Nat
  /-- There is such a day. -/
  isDate : IsDate year month day
  deriving DecidableEq

namespace Date

open Calendar

/-- The date with these numbers, if there is one. -/
def make? (year month day : Nat) : Option Date :=
  if h : IsDate year month day then some ⟨year, month, day, h⟩ else none

/-- The number of a day. -/
def dayNumber (d : Date) : Nat :=
  daysBeforeYear d.year + daysBeforeMonth (isLeap d.year) d.month + (d.day - 1)

/-- The day of the year, counted from 0, is less than the length of the year. -/
theorem dayOfYear_lt (n : Nat) :
    n - daysBeforeYear (yearOfDay n) < (if isLeap (yearOfDay n) then 366 else 365) := by
  have h1 := daysBeforeYear_yearOfDay_le n
  have h2 := lt_daysBeforeYear_succ n
  rw [daysBeforeYear_succ (one_le_yearOfDay n)] at h2
  simp only [yearLength] at h2
  omega

theorem yearOfDay_le {n : Nat} (h : n < dayCount) : yearOfDay n ≤ 9999 := by
  have h1 := daysBeforeYear_yearOfDay_le n
  simp only [daysBeforeYear, dayCount] at h1 h
  omega

/-- The date of a day number. -/
def ofDayNumber (n : Nat) (h : n < dayCount) : Date :=
  let year := yearOfDay n
  let leap := isLeap year
  let dayOfYear := n - daysBeforeYear year
  let month := monthOfDay leap dayOfYear
  ⟨year, month, dayOfYear - daysBeforeMonth leap month + 1, by
    have hm := monthOfDay_holds leap dayOfYear (dayOfYear_lt n)
    refine ⟨one_le_yearOfDay n, yearOfDay_le h, hm.1, hm.2.1, Nat.le_add_left 1 _, ?_⟩
    show dayOfYear - daysBeforeMonth leap (monthOfDay leap dayOfYear) + 1
      ≤ monthLength leap (monthOfDay leap dayOfYear)
    omega⟩

/-- **The date of a day number has that number.** -/
theorem dayNumber_ofDayNumber (n : Nat) (h : n < dayCount) :
    (ofDayNumber n h).dayNumber = n := by
  have hy := daysBeforeYear_yearOfDay_le n
  have hm := monthOfDay_holds (isLeap (yearOfDay n)) (n - daysBeforeYear (yearOfDay n))
    (dayOfYear_lt n)
  simp only [dayNumber, ofDayNumber]
  omega

end Date

end JobWatch
