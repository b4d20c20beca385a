/-
  JobWatch.Number.Whole
  ─────────────────────
  **WHOLE NUMBERS FROM TEXT.**

  The text of a whole number may stand between blanks, may carry one sign,
  and consists of decimal digits of any script with single underscores
  allowed between neighbours. More than `digitLimit` digits are refused.
-/
import JobWatch.Number.Decimal
import JobWatch.Text.Blank

namespace JobWatch

/-- Why a value does not give a whole number. -/
inductive NumberError where
  /-- The text is not a number, or the float is not one. -/
  | malformed
  /-- The float is infinite. -/
  | infinite
  /-- The value is of a kind that has no number. -/
  | notNumeric
  deriving DecidableEq, Repr

/-- The most digits that a whole number may be written with. -/
def digitLimit : Nat := 4300

namespace Text

/-- Digits, with single underscores allowed between neighbours. -/
def groupedDigits? : Text → Option (List Digit)
  | [] => none
  | c :: rest =>
    match c.decimalDigit?, rest with
    | none, _ => none
    | some d, [] => some [d]
    | some d, u :: more =>
      if u = CodePoint.ofChar '_' then (groupedDigits? more).map (d :: ·)
      else (groupedDigits? (u :: more)).map (d :: ·)

/-- The sign at the front of a text, true for minus, and the rest. -/
def takeSign : Text → Bool × Text
  | [] => (false, [])
  | c :: rest =>
    if c = CodePoint.ofChar '-' then (true, rest)
    else if c = CodePoint.ofChar '+' then (false, rest)
    else (false, c :: rest)

/-- A number with the sign of `negative`. -/
def signed (negative : Bool) (n : Nat) : Int := if negative then -(n : Int) else n

/-- The whole number that a text writes. -/
def readInt? (t : Text) : Option Int :=
  let body := takeSign t.trimNumber
  match groupedDigits? body.2 with
  | none => none
  | some digits =>
    if digits.length ≤ digitLimit then some (signed body.1 (number digits)) else none

end Text

end JobWatch
