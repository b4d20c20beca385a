/-
  JobWatch.Number.Decimal
  ───────────────────────
  **DECIMAL DIGITS AND THE NUMBERS THEY WRITE.**

  Numbers are written in ASCII digits, either with as many digits as they
  need or with a fixed count and zeros in front; they are read from the
  decimal digits of any script.

      number (fixedDigits w n)  =  n % 10 ^ w
-/
import JobWatch.Text.DecimalDigit

namespace JobWatch

/-- Powers of natural numbers are those of the core library, whatever else is imported. -/
scoped instance (priority := 2000) corePow : Pow Nat Nat := instPowNat

/-! ## §1. Digit strings. -/

/-- The number that digits write, the most significant digit first. -/
def number (digits : List Digit) : Nat := digits.foldl (fun n d => 10 * n + d.val) 0

/-- The last `width` decimal digits of a number. -/
def fixedDigits (width n : Nat) : List Digit := go width n []
where
  /-- The digits in front of those already found. -/
  go : Nat → Nat → List Digit → List Digit
    | 0, _, found => found
    | w + 1, n, found => go w (n / 10) (⟨n % 10, by omega⟩ :: found)

theorem fixedDigits_go_eq (w n : Nat) (found : List Digit) :
    fixedDigits.go w n found = fixedDigits.go w n [] ++ found := by
  induction w generalizing n found with
  | zero => simp [fixedDigits.go]
  | succ w ih =>
    rw [fixedDigits.go, ih, fixedDigits.go, ih (n / 10) [_]]
    simp

/-- One more digit is one more step of division. -/
theorem fixedDigits_succ (w n : Nat) :
    fixedDigits (w + 1) n = fixedDigits w (n / 10) ++ [⟨n % 10, by omega⟩] := by
  rw [fixedDigits, fixedDigits.go, fixedDigits_go_eq, fixedDigits]

/-- There are as many digits as asked for. -/
theorem length_fixedDigits (w n : Nat) : (fixedDigits w n).length = w := by
  induction w generalizing n with
  | zero => rfl
  | succ w ih => simp [fixedDigits_succ, ih]

/-- A digit put behind a number is added to ten times the number. -/
theorem number_append_singleton (ds : List Digit) (d : Digit) :
    number (ds ++ [d]) = 10 * number ds + d.val := by
  simp [number, List.foldl_append]

theorem foldl_digits_lt (ds : List Digit) (n : Nat) :
    ds.foldl (fun n d => 10 * n + d.val) n < (n + 1) * 10 ^ ds.length := by
  induction ds generalizing n with
  | nil => simp
  | cons d ds ih =>
    have h := ih (10 * n + d.val)
    have hd : 10 * n + d.val + 1 ≤ 10 * (n + 1) := by omega
    calc (d :: ds).foldl (fun n d => 10 * n + d.val) n
        < (10 * n + d.val + 1) * 10 ^ ds.length := h
      _ ≤ 10 * (n + 1) * 10 ^ ds.length := Nat.mul_le_mul_right _ hd
      _ = (n + 1) * 10 ^ (d :: ds).length := by
        rw [List.length_cons, Nat.pow_succ, Nat.mul_comm 10, Nat.mul_assoc, Nat.mul_comm 10]

/-- Digits write less than the power of ten that their count names. -/
theorem number_lt (ds : List Digit) : number ds < 10 ^ ds.length := by
  simpa [number] using foldl_digits_lt ds 0

/-- **Fixed digits write the number, as far as they reach.** -/
theorem number_fixedDigits (w n : Nat) : number (fixedDigits w n) = n % 10 ^ w := by
  induction w generalizing n with
  | zero => simp [fixedDigits, fixedDigits.go, number, Nat.mod_one]
  | succ w ih =>
    rw [fixedDigits_succ, number_append_singleton, ih, Nat.pow_succ, Nat.mul_comm (10 ^ w) 10,
      Nat.mod_mul]
    exact Nat.add_comm _ _

/-! ## §2. Texts of numbers. -/

namespace Text

/-- A number in decimal, without zeros in front. -/
def ofNat (n : Nat) : Text := (Nat.toDigits 10 n).map CodePoint.ofChar

/-- An integer in decimal, with a minus sign in front when it is negative. -/
def ofInt : Int → Text
  | .ofNat n => ofNat n
  | .negSucc n => CodePoint.ofChar '-' :: ofNat (n + 1)

/-- A number in decimal with exactly `width` digits. -/
def padded (width n : Nat) : Text := (fixedDigits width n).map CodePoint.ofDigit

/-- The decimal digits at the front of a text, and the rest. -/
def spanDigits : Text → List Digit × Text
  | [] => ([], [])
  | c :: rest =>
    match c.decimalDigit? with
    | none => ([], c :: rest)
    | some d => (d :: (spanDigits rest).1, (spanDigits rest).2)

end Text

end JobWatch
