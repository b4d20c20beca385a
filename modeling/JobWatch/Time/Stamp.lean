/-
  JobWatch.Time.Stamp
  ───────────────────
  **TIMESTAMPS IN TEXT.**

  A stamp has the shape `YYYY-MM-DDTHH:MM:SS`, then at will a point and one
  to nine digits, then `Z`. Reading a text gives the digits of the stamp, of
  whatever script; what the digits mean is a second question. Instants are
  written in two forms: the canonical one with three digits of fraction, and
  the wire form with as few of 0, 3, 6 or 9 digits as are exact.
-/
import JobWatch.Number.Decimal
import JobWatch.Text.Blank
import JobWatch.Time.Instant

namespace JobWatch

/-- The digits of a timestamp. -/
structure Stamp where
  /-- Four digits. -/
  year : List Digit
  /-- Two digits. -/
  month : List Digit
  /-- Two digits. -/
  day : List Digit
  /-- Two digits. -/
  hour : List Digit
  /-- Two digits. -/
  minute : List Digit
  /-- Two digits. -/
  second : List Digit
  /-- Up to nine digits; none when there is no point. -/
  fraction : List Digit
  deriving DecidableEq

namespace Stamp

/-! ## §1. The shape. -/

/-- Exactly `n` decimal digits at the front of a text, and the rest. -/
def digits? : Nat → Text → Option (List Digit × Text)
  | 0, t => some ([], t)
  | _ + 1, [] => none
  | n + 1, c :: rest =>
    match c.decimalDigit? with
    | none => none
    | some d => (digits? n rest).map fun r => (d :: r.1, r.2)

/-- The text after `c`, if `c` is at its front. -/
def mark? (c : CodePoint) : Text → Option Text
  | [] => none
  | d :: rest => if d = c then some rest else none

/-- The end of a stamp: `Z`, or a point, one to nine digits and `Z`. -/
def fraction? (t : Text) : Option (List Digit) :=
  match mark? '.' t with
  | none => if t = [CodePoint.ofChar 'Z'] then some [] else none
  | some behind =>
    let (digits, rest) := Text.spanDigits behind
    if 1 ≤ digits.length ∧ digits.length ≤ 9 ∧ rest = [CodePoint.ofChar 'Z'] then some digits
    else none

/-- The stamp that a text shows. -/
def read? (t : Text) : Option Stamp := do
  let (year, t) ← digits? 4 t
  let t ← mark? '-' t
  let (month, t) ← digits? 2 t
  let t ← mark? '-' t
  let (day, t) ← digits? 2 t
  let t ← mark? 'T' t
  let (hour, t) ← digits? 2 t
  let t ← mark? ':' t
  let (minute, t) ← digits? 2 t
  let t ← mark? ':' t
  let (second, t) ← digits? 2 t
  let fraction ← fraction? t
  some { year, month, day, hour, minute, second, fraction }

/-! ## §2. The meaning. -/

/-- Digits behind a point as nanoseconds: zeros are added up to nine digits. -/
def nanosOf (fraction : List Digit) : Nat := number ((fraction ++ List.replicate 9 0).take 9)

theorem nanosOf_lt (fraction : List Digit) : nanosOf fraction < nanosPerSecond := by
  have h := number_lt ((fraction ++ List.replicate 9 0).take 9)
  have hlen : ((fraction ++ List.replicate 9 (0 : Digit)).take 9).length = 9 := by
    simp
  rw [hlen] at h
  exact h

/-- The instant of a stamp whose digits name a calendar time. -/
def instant? (s : Stamp) : Option Instant :=
  (CalendarTime.make? (number s.year) (number s.month) (number s.day) (number s.hour)
    (number s.minute) (number s.second) 0).map fun t =>
      ⟨t.epochSeconds, nanosOf s.fraction, nanosOf_lt s.fraction⟩

end Stamp

namespace Instant

/-- The instant that a text stamps, blanks at its ends aside. -/
def ofText? (t : Text) : Option Instant := (Stamp.read? t.trim).bind Stamp.instant?

end Instant

/-! ## §3. Writing. -/

namespace CalendarTime

/-- Day and time of day to the second. -/
def text (t : CalendarTime) : Text :=
  Text.padded 4 t.date.year ++ CodePoint.ofChar '-' :: Text.padded 2 t.date.month
    ++ CodePoint.ofChar '-' :: Text.padded 2 t.date.day
    ++ CodePoint.ofChar 'T' :: Text.padded 2 t.hour.val
    ++ CodePoint.ofChar ':' :: Text.padded 2 t.minute.val
    ++ CodePoint.ofChar ':' :: Text.padded 2 t.second.val

end CalendarTime

namespace Instant

/-- The instant with a fraction of the given text between its seconds and the `Z`. -/
def stamped (i : Instant) (fraction : Text) : Except TimeError Text :=
  match i.calendarTime with
  | .error e => .error e
  | .ok t => .ok (t.text ++ fraction ++ [CodePoint.ofChar 'Z'])

/-- A point and `width` digits. -/
def fractionText (width n : Nat) : Text := CodePoint.ofChar '.' :: Text.padded width n

/-- The canonical text, to the millisecond. -/
def canonical (i : Instant) : Except TimeError Text :=
  i.stamped (fractionText 3 (i.nanos / 1000000))

/-- The fraction in the shortest of the exact widths 0, 3, 6 and 9. -/
def wireFraction (nanos : Nat) : Text :=
  if nanos = 0 then []
  else if nanos % 1000000 = 0 then fractionText 3 (nanos / 1000000)
  else if nanos % 1000 = 0 then fractionText 6 (nanos / 1000)
  else fractionText 9 nanos

/-- The wire form, exact to the nanosecond. -/
def toWire (i : Instant) : Except TimeError Text := i.stamped (wireFraction i.nanos)

end Instant

end JobWatch
