/-
  JobWatch.Number.Binary64
  ────────────────────────
  **BINARY64 NUMBERS AS EXACT DATA.**

  A binary64 number is its sign, its exponent field and its fraction field;
  a finite one stands for `± significand · 2 ^ scale` exactly. Rounding takes
  a ratio of naturals to the nearest such number, a tie to the even
  significand, so that reading a decimal needs no floating arithmetic.
-/
import JobWatch.Number.Whole

namespace JobWatch

instance Binary64.neZero_fraction : @NeZero Nat Zero.ofOfNat0 4503599627370496 :=
  ⟨by decide⟩

/-- A binary64 number in its interchange format. -/
structure Binary64 where
  /-- The sign bit. -/
  negative : Bool
  /-- The biased exponent; 0 for zeros and subnormals, 2047 for the rest that is not finite. -/
  exponent : Fin 2048
  /-- The bits behind the binary point. -/
  fraction : Fin 4503599627370496
  deriving DecidableEq

namespace Binary64

/-! ## §1. What the fields mean. -/

/-- The number of fraction values, `2 ^ 52`. -/
def fractionSize : Nat := 4503599627370496

/-- Zero, of either sign. -/
def zero (negative : Bool) : Binary64 := ⟨negative, 0, 0⟩

/-- Infinity, of either sign. -/
def infinity (negative : Bool) : Binary64 := ⟨negative, 2047, 0⟩

/-- The one value used for everything that is not a number. -/
def nan : Binary64 := ⟨false, 2047, 2251799813685248⟩

/-- Not a number. -/
def isNaN (x : Binary64) : Bool := x.exponent == 2047 && x.fraction != 0

/-- Either infinity. -/
def isInfinite (x : Binary64) : Bool := x.exponent == 2047 && x.fraction == 0

/-- Either zero. -/
def isZero (x : Binary64) : Bool := x.exponent == 0 && x.fraction == 0

/-- The integer that the power of two scales. -/
def significand (x : Binary64) : Nat :=
  if x.exponent = 0 then x.fraction.val else fractionSize + x.fraction.val

/-- The power of two that scales the significand. -/
def scale (x : Binary64) : Int :=
  if x.exponent = 0 then -1074 else (x.exponent.val : Int) - 1075

/-- The 64 bits as a number. -/
def bits (x : Binary64) : Nat :=
  (if x.negative then 9223372036854775808 else 0) + x.exponent.val * fractionSize + x.fraction.val

/-- The whole number that is left when the places behind the point are dropped. -/
def truncate (x : Binary64) : Except NumberError Int :=
  if x.isNaN then .error .malformed
  else if x.isInfinite then .error .infinite
  else
    let magnitude :=
      if 0 ≤ x.scale then x.significand * 2 ^ x.scale.toNat
      else x.significand / 2 ^ (-x.scale).toNat
    .ok (Text.signed x.negative magnitude)

/-! ## §2. Rounding a ratio. -/

/-- The nearest whole number to `num / den`; a tie goes to the even neighbour. -/
def roundHalfEven (num den : Nat) : Nat :=
  let q := num / den
  let r := num % den
  if 2 * r < den then q
  else if den < 2 * r then q + 1
  else if q % 2 = 0 then q else q + 1

/-- The greatest `l` with `2 ^ l ≤ num / den`. -/
def floorLog2 (num den : Nat) : Int :=
  let l : Int := (num.log2 : Int) - den.log2
  if num * 2 ^ (-l).toNat < den * 2 ^ l.toNat then l - 1 else l

/-- The binary64 number nearest to `num / den`; a tie goes to the even significand, and what
is too large becomes infinite. -/
def ofRatio (negative : Bool) (num den : Nat) : Binary64 :=
  if num = 0 then zero negative
  else
    let k : Int := max (floorLog2 num den - 52) (-1074)
    let r := roundHalfEven (num * 2 ^ (-k).toNat) (den * 2 ^ k.toNat)
    -- the fields as one number: a significand that rounds up carries into the exponent
    let fields := (k + 1074).toNat * fractionSize + r
    if h : fields / fractionSize < 2047 then
      ⟨negative, ⟨fields / fractionSize, by omega⟩,
        ⟨fields % fractionSize, Nat.mod_lt _ (by decide)⟩⟩
    else infinity negative

/-- The binary64 number nearest to `m · 10 ^ e`. -/
def ofDecimal (negative : Bool) (m : Nat) (e : Int) : Binary64 :=
  let magnitude : Int := e + (Nat.toDigits 10 m).length
  if m = 0 then zero negative
  else if 310 < magnitude then infinity negative
  else if magnitude < -330 then zero negative
  else ofRatio negative (m * 10 ^ e.toNat) (10 ^ (-e).toNat)

/-- The most significant digits that are kept of a decimal: a number halfway between two
neighbours has fewer, so that of the others it matters only whether one is not zero. -/
def digitsKept : Nat := 800

/-- The binary64 number nearest to digits times `10 ^ e`. -/
def ofDigits (negative : Bool) (digits : List Digit) (e : Int) : Binary64 :=
  let significant := digits.dropWhile (· = 0)
  let kept := significant.take digitsKept
  let dropped := significant.drop digitsKept
  if dropped.isEmpty then ofDecimal negative (number kept) e
  else
    let sticky : Digit := if dropped.all (· = 0) then 0 else 1
    ofDecimal negative (number (kept ++ [sticky])) (e + dropped.length - 1)

/-- The number that the digits of an exponent write; beyond twenty digits it is too large to
matter. -/
def tenfold (digits : List Digit) : Nat :=
  let significant := digits.dropWhile (· = 0)
  if significant.length ≤ 20 then number significant else 10 ^ (20 : Nat)

/-! ## §3. Reading a text. -/

/-- Digits of any script become ASCII digits. -/
def plainDigits (t : Text) : Text :=
  t.map fun c => (c.decimalDigit?.map CodePoint.ofDigit).getD c

/-- Underscores between two digits disappear; any other makes the text malformed. -/
def dropUnderscores? (afterDigit : Bool) : Text → Option Text
  | [] => some []
  | c :: rest =>
    if c = CodePoint.ofChar '_' then
      match rest with
      | [] => none
      | d :: more =>
        if afterDigit && d.isAsciiDigit then (dropUnderscores? true more).map (d :: ·) else none
    else (dropUnderscores? c.isAsciiDigit rest).map (c :: ·)

/-- The exponent part of a decimal, which must fill the text: nothing, or `e`, an optional
sign and digits. -/
def exponentPart? : Text → Option Int
  | [] => some 0
  | c :: rest =>
    if c.toLower = CodePoint.ofChar 'e' then
      let body := Text.takeSign rest
      match Text.spanDigits body.2 with
      | ([], _) => none
      | (digits, []) => some (Text.signed body.1 (tenfold digits))
      | _ => none
    else none

/-- The digits behind a decimal point, if one follows, and the rest. -/
def fractionPart : Text → List Digit × Text
  | [] => ([], [])
  | c :: rest => if c = CodePoint.ofChar '.' then Text.spanDigits rest else ([], c :: rest)

/-- An unsigned decimal with optional point and exponent. -/
def decimal? (negative : Bool) (t : Text) : Option Binary64 :=
  let whole := Text.spanDigits t
  let behind := fractionPart whole.2
  if whole.1 = [] ∧ behind.1 = [] then none
  else (exponentPart? behind.2).map fun e =>
    ofDigits negative (whole.1 ++ behind.1) (e - behind.1.length)

/-- The binary64 number that a text writes: a decimal, or a name of infinity or of what is not
a number, in any case of letters. -/
def read? (t : Text) : Option Binary64 := do
  let plain ← dropUnderscores? false (plainDigits t.trimNumber)
  let (negative, body) := Text.takeSign plain
  let name := body.map CodePoint.toLower
  if name = Text.ofString "inf" ∨ name = Text.ofString "infinity" then some (infinity negative)
  else if name = Text.ofString "nan" then some nan
  else decimal? negative body

end Binary64

end JobWatch
