/-
  JobWatch.Text.Utf8
  ──────────────────
  **UTF-8.**

  One step reads one code point, or finds the longest stretch that could
  still have begun one; three readers are made of that step: the strict one,
  the one that lets surrogates pass, and the one that puts U+FFFD in the
  place of each bad stretch.

      read (encode t) = some t       for a text without surrogates
-/
import JobWatch.Text.CodePoint

namespace JobWatch

/-- Octets in order. -/
abbrev Bytes := List UInt8

namespace Utf8

/-! ## §1. Writing. -/

/-- The octet with number `n`. -/
def octet (n : Nat) : UInt8 := UInt8.ofNat n

/-- The octets of one code point; a surrogate gets three like its neighbours. -/
def encodeOne (c : CodePoint) : Bytes :=
  let n := c.val
  if n < 0x80 then [octet n]
  else if n < 0x800 then [octet (0xC0 + n / 0x40), octet (0x80 + n % 0x40)]
  else if n < 0x10000 then
    [octet (0xE0 + n / 0x1000), octet (0x80 + n / 0x40 % 0x40), octet (0x80 + n % 0x40)]
  else
    [octet (0xF0 + n / 0x40000), octet (0x80 + n / 0x1000 % 0x40),
      octet (0x80 + n / 0x40 % 0x40), octet (0x80 + n % 0x40)]

/-- The octets of a text. -/
def encode (t : Text) : Bytes := t.flatMap encodeOne

/-- The octets of a text, unless it holds a surrogate. -/
def encode? (t : Text) : Option Bytes := if t.isScalar then some (encode t) else none

/-- The octets of one code point where a surrogate from `DC80` to `DCFF` stands for an octet that
is no UTF-8; no other surrogate has octets. -/
def encodeEscapedOne? (c : CodePoint) : Option Bytes :=
  if c.within 0xDC80 0xDCFF then some [octet (c.val - 0xDC00)]
  else if c.isSurrogate then none
  else some (encodeOne c)

/-- The octets of a text in which some surrogates stand for octets, if the others are missing. -/
def encodeEscaped? (t : Text) : Option Bytes := (t.mapM encodeEscapedOne?).map List.flatten

/-! ## §2. One step of reading. -/

/-- The octet has a number from `lo` to `hi`. -/
def within (b : UInt8) (lo hi : Nat) : Bool := lo ≤ b.toNat && b.toNat ≤ hi

/-- The six bits that a continuation octet carries. -/
def low6 (b : UInt8) : Nat := b.toNat % 0x40

/-- What the front of some octets is. -/
inductive Step where
  /-- A code point. -/
  | found (c : CodePoint)
  /-- The longest stretch that could have begun a code point, with no more of it. -/
  | bad
  deriving DecidableEq

/-- What may follow a first octet: how many octets, the bits that the first one carries, and the
range of the second. Surrogates, overlong forms and numbers past the last code point are shut
out by the range of the second octet. -/
def lead? (surrogates : Bool) (b : UInt8) : Option (Nat × Nat × Nat × Nat) :=
  let n := b.toNat
  if within b 0xC2 0xDF then some (1, n - 0xC0, 0x80, 0xBF)
  else if n = 0xE0 then some (2, 0, 0xA0, 0xBF)
  else if n = 0xED then some (2, 0xD, 0x80, if surrogates then 0xBF else 0x9F)
  else if within b 0xE1 0xEF then some (2, n - 0xE0, 0x80, 0xBF)
  else if n = 0xF0 then some (3, 0, 0x90, 0xBF)
  else if within b 0xF1 0xF3 then some (3, n - 0xF0, 0x80, 0xBF)
  else if n = 0xF4 then some (3, 4, 0x80, 0x8F)
  else none

/-- The continuation octets that are still due, each in its range. -/
def continuation : Nat → Nat → Nat → Nat → Bytes → Step × Bytes
  | 0, acc, _, _, rest => (.found (CodePoint.ofNat acc), rest)
  | _ + 1, _, _, _, [] => (.bad, [])
  | due + 1, acc, lo, hi, b :: rest =>
    if within b lo hi then continuation due (acc * 0x40 + low6 b) 0x80 0xBF rest
    else (.bad, b :: rest)

/-- Reads the front of `b :: rest`, and gives what is left. -/
def step (surrogates : Bool) (b : UInt8) (rest : Bytes) : Step × Bytes :=
  if b.toNat < 0x80 then (.found (CodePoint.ofNat b.toNat), rest)
  else match lead? surrogates b with
    | none => (.bad, rest)
    | some (due, acc, lo, hi) => continuation due acc lo hi rest

theorem length_continuation_le (due acc lo hi : Nat) (rest : Bytes) :
    (continuation due acc lo hi rest).2.length ≤ rest.length := by
  induction rest generalizing due acc lo hi with
  | nil => cases due <;> simp [continuation]
  | cons b rest ih =>
    cases due with
    | zero => simp [continuation]
    | succ due =>
      rw [continuation]
      split
      · exact Nat.le_succ_of_le (ih _ _ _ _)
      · simp

/-- A step leaves less than it was given. -/
theorem length_step_lt (surrogates : Bool) (b : UInt8) (rest : Bytes) :
    (step surrogates b rest).2.length < (b :: rest).length := by
  rw [step]
  split
  · simp
  · split
    · simp
    · exact Nat.lt_succ_of_le (length_continuation_le _ _ _ _ _)

/-! ## §3. The three readers. -/

/-- The code points of some octets, with `none` for each bad stretch; `fuel` bounds the number
of steps. -/
def scan (surrogates : Bool) : Nat → Bytes → List (Option CodePoint)
  | 0, _ => []
  | _, [] => []
  | fuel + 1, b :: rest =>
    match step surrogates b rest with
    | (.found c, left) => some c :: scan surrogates fuel left
    | (.bad, left) => none :: scan surrogates fuel left

/-- Every octet is read in at most as many steps as there are octets. -/
def pieces (surrogates : Bool) (bytes : Bytes) : List (Option CodePoint) :=
  scan surrogates bytes.length bytes

/-- The text of well-formed octets. -/
def read (bytes : Bytes) : Option Text := (pieces false bytes).mapM id

/-- The text of octets that are well-formed but for surrogates. -/
def readPassing (bytes : Bytes) : Option Text := (pieces true bytes).mapM id

/-- The text of any octets, each bad stretch shown as U+FFFD. -/
def readReplacing (bytes : Bytes) : Text :=
  (pieces false bytes).map fun piece => piece.getD (CodePoint.ofNat 0xFFFD)

end Utf8

end JobWatch
