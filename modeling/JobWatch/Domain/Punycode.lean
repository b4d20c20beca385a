/-
  JobWatch.Domain.Punycode
  ────────────────────────
  **LABELS IN ASCII.**

  A label in ASCII names its ASCII characters first, and then tells where the
  others have to be put in, from the least code point to the greatest. What is
  told is how many places and code points are passed by from one insertion to
  the next, in numbers of base 36 whose digits weigh more or less as the
  numbers before them were large or small.
-/
import JobWatch.Text.CodePoint

namespace JobWatch

namespace Punycode

/-! ## §1. Numbers. -/

/-- The digit of a value below 36. -/
def digit (n : Nat) : CodePoint :=
  if n < 26 then CodePoint.ofNat (0x61 + n) else CodePoint.ofNat (0x30 + (n - 26))

/-- The value of a digit. -/
def digitValue? (c : CodePoint) : Option Nat :=
  let small := c.toLower
  if small.within 0x61 0x7A then some (small.val - 0x61)
  else if c.within 0x30 0x39 then some (c.val - 0x30 + 26)
  else none

/-- A digit below the threshold of its place ends a number; `place` is 36 for the first digit and
grows by 36. -/
def threshold (bias place : Nat) : Nat := max 1 (min 26 (place - bias))

theorem threshold_pos (bias place : Nat) : 1 ≤ threshold bias place := Nat.le_max_left _ _

/-- A number in digits. -/
def digits (bias place n : Nat) : Text :=
  let t := threshold bias place
  if n < t then [digit n]
  else digit (t + (n - t) % (36 - t)) :: digits bias (place + 36) ((n - t) / (36 - t))
termination_by n
decreasing_by
  have h := threshold_pos bias place
  exact Nat.lt_of_le_of_lt (Nat.div_le_self _ _) (by omega)

/-- The number at the front of a text, and the rest: what the digits so far are worth, and what
the next one weighs, come first. -/
def number? (bias place worth weight : Nat) : Text → Option (Nat × Text)
  | [] => none
  | c :: rest =>
    match digitValue? c with
    | none => none
    | some d =>
      let t := threshold bias place
      if d < t then some (worth + d * weight, rest)
      else number? bias (place + 36) (worth + d * weight) (weight * (36 - t)) rest

/-- How often a number is divided by 35 until it is at most 455, and what is left. -/
def shrunk (n : Nat) : Nat × Nat :=
  if 455 < n then
    let r := shrunk (n / 35)
    (r.1 + 1, r.2)
  else (0, n)
termination_by n
decreasing_by exact Nat.div_lt_self (by omega) (by decide)

/-- The bias after a number, with so many characters in place. -/
def adapt (first : Bool) (n count : Nat) : Nat :=
  let n := if first then n / 700 else n / 2
  let r := shrunk (n + n / count)
  36 * r.1 + 36 * r.2 / (r.2 + 38)

/-- The bias before the first number. -/
def firstBias : Nat := 72

/-- The first code point that is not ASCII. -/
def firstCode : Nat := 0x80

/-! ## §2. Writing. -/

/-- A label half written. -/
structure Writing where
  /-- The numbers so far. -/
  written : Text := []
  /-- What has been passed by since the last insertion. -/
  passed : Nat := 0
  /-- The bias. -/
  bias : Nat := firstBias
  /-- How many characters are in place. -/
  count : Nat

/-- Goes past one character while the code point `code` is put in. -/
def Writing.visit (basic code : Nat) (w : Writing) (c : CodePoint) : Writing :=
  if c.val < code then { w with passed := w.passed + 1 }
  else if c.val = code then
    { written := w.written ++ digits w.bias 36 w.passed
      passed := 0
      bias := adapt (w.count = basic) w.passed (w.count + 1)
      count := w.count + 1 }
  else w

/-- Puts in the code points of a label that are at least `next`, each in all its places. -/
def Writing.insertAll (t : Text) (basic : Nat) : List Nat → Nat → Writing → Writing
  | [], _, w => w
  | code :: rest, next, w =>
    let w := { w with passed := w.passed + (code - next) * (w.count + 1) }
    let w := t.foldl (Writing.visit basic code) w
    insertAll t basic rest (code + 1) { w with passed := w.passed + 1 }

/-- The label in ASCII. -/
def encode (t : Text) : Text :=
  let basic := t.filter CodePoint.isAscii
  let codes := ((t.filter fun c => !c.isAscii).map CodePoint.val).mergeSort.eraseDups
  let w := Writing.insertAll t basic.length codes firstCode { count := basic.length }
  (if basic.isEmpty then [] else basic ++ [CodePoint.ofChar '-']) ++ w.written

/-! ## §3. Reading. -/

/-- Puts in what the numbers in a text tell, into the characters that are in place; `next` is
where the search for the next place begins, and `steps` bounds the insertions. -/
def insert? : Nat → (bias code next : Nat) → (first : Bool) → Text → Text → Option Text
  | 0, _, _, _, _, _, t => some t
  | _, _, _, _, _, [], t => some t
  | steps + 1, bias, code, next, first, rest, t =>
    match number? bias 36 0 1 rest with
    | none => none
    | some (n, rest) =>
      let room := t.length + 1
      let code := code + (next + n) / room
      let place := (next + n) % room
      if h : code < 0x110000 then
        insert? steps (adapt first n room) code (place + 1) false rest
          (t.take place ++ [⟨code, h⟩] ++ t.drop place)
      else none

/-- The label that a text in ASCII stands for. -/
def decode? (t : Text) : Option Text :=
  let pieces := t.splitAt '-'
  let basic := Text.join ['-'] pieces.dropLast
  let numbers := pieces.getLast?.getD []
  insert? numbers.length firstBias firstCode 0 true numbers basic

end Punycode

end JobWatch
