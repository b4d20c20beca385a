/-
  JobWatch.Json.Reader
  ────────────────────
  **READING JSON.**

  The grammar of JSON, with three liberties: `NaN`, `Infinity` and
  `-Infinity` are numbers, an escaped surrogate needs no partner, and a name
  may occur twice in an object, where the last value counts.

      read t = .ok v      — the whole text is one value between blanks

  Lists and objects may stand in each other only so deep.  The reader goes
  down into them on the stack of its process, so how deep that is depends on
  how much of the stack is left; it is a parameter of the reader.
-/
import JobWatch.Value.Basic

namespace JobWatch

namespace Json

/-! ## §1. Blanks and punctuation. -/

/-- The four characters that may stand between tokens. -/
def isBlank (c : CodePoint) : Bool :=
  c.val == 0x20 || c.val == 0x09 || c.val == 0x0A || c.val == 0x0D

/-- The text after the blanks at its front. -/
def skip (t : Text) : Text := t.dropWhile isBlank

/-- The text after `c`, if `c` is at its front. -/
def expect? (c : CodePoint) : Text → Option Text
  | [] => none
  | d :: rest => if d = c then some rest else none

/-- The text after the word `word`, if that is at its front. -/
def word? (word : Text) (t : Text) : Option Text :=
  if word.isPrefixOf t then some (t.drop word.length) else none

/-! ## §2. Strings. -/

/-- What a letter behind a backslash stands for. -/
def escape? (c : CodePoint) : Option CodePoint :=
  if c = CodePoint.ofChar '"' ∨ c = CodePoint.ofChar '\\' ∨ c = CodePoint.ofChar '/' then some c
  else if c = CodePoint.ofChar 'b' then some (CodePoint.ofNat 0x08)
  else if c = CodePoint.ofChar 'f' then some (CodePoint.ofNat 0x0C)
  else if c = CodePoint.ofChar 'n' then some (CodePoint.ofNat 0x0A)
  else if c = CodePoint.ofChar 'r' then some (CodePoint.ofNat 0x0D)
  else if c = CodePoint.ofChar 't' then some (CodePoint.ofNat 0x09)
  else none

/-- The code point that four hexadecimal digits number. -/
def hex4? (a b c d : CodePoint) : Option CodePoint := do
  let a ← a.hexValue?
  let b ← b.hexValue?
  let c ← c.hexValue?
  let d ← d.hexValue?
  some (CodePoint.ofNat (a * 0x1000 + b * 0x100 + c * 0x10 + d))

/-- The characters of a string up to its closing quote, each with whether it was written as a
number, and the text after the quote. -/
def characters : Text → Option (List (CodePoint × Bool) × Text)
  | [] => none
  | c :: rest =>
    if c = CodePoint.ofChar '"' then some ([], rest)
    else if c = CodePoint.ofChar '\\' then
      match rest with
      | [] => none
      | e :: more =>
        if e = CodePoint.ofChar 'u' then
          match more with
          | h₁ :: h₂ :: h₃ :: h₄ :: left =>
            match hex4? h₁ h₂ h₃ h₄ with
            | none => none
            | some u => (characters left).map fun r => ((u, true) :: r.1, r.2)
          | _ => none
        else
          match escape? e with
          | none => none
          | some x => (characters more).map fun r => ((x, false) :: r.1, r.2)
    else if c.val < 0x20 then none
    else (characters rest).map fun r => ((c, false) :: r.1, r.2)

/-- Two surrogates that were written as numbers and form a pair become one code point. -/
def joinWritten : List (CodePoint × Bool) → Text
  | [] => []
  | [(c, _)] => [c]
  | (hi, w₁) :: (lo, w₂) :: rest =>
    if w₁ && w₂ && hi.isHighSurrogate && lo.isLowSurrogate then
      CodePoint.ofPair hi lo :: joinWritten rest
    else hi :: joinWritten ((lo, w₂) :: rest)

/-- The string whose opening quote has been read, and the text after it. -/
def string? (t : Text) : Option (Text × Text) :=
  (characters t).map fun r => (joinWritten r.1, r.2)

/-! ## §3. Numbers. -/

/-- The ASCII digits at the front of a text, and the rest. -/
def spanDigits (t : Text) : Text × Text :=
  (t.takeWhile CodePoint.isAsciiDigit, t.dropWhile CodePoint.isAsciiDigit)

/-- The digits that a text holds. -/
def digitsOf (t : Text) : List Digit := t.filterMap CodePoint.decimalDigit?

/-- The whole part of a number: a zero alone, or digits that do not begin with zero. -/
def whole? (t : Text) : Option (Text × Text) :=
  match spanDigits t with
  | ([], _) => none
  | (d :: ds, rest) =>
    if d = CodePoint.ofChar '0' then some ([d], ds ++ rest) else some (d :: ds, rest)

/-- A point and digits, if both follow, and the rest. -/
def fraction (t : Text) : Text × Text :=
  match expect? '.' t with
  | none => ([], t)
  | some behind =>
    match spanDigits behind with
    | ([], _) => ([], t)
    | r => r

/-- An exponent, if a whole one follows, and the rest. -/
def exponent (t : Text) : Option Int × Text :=
  match t with
  | [] => (none, t)
  | c :: behind =>
    if c.toLower = CodePoint.ofChar 'e' then
      let body := Text.takeSign behind
      match spanDigits body.2 with
      | ([], _) => (none, t)
      | (digits, rest) => (some (Text.signed body.1 (Binary64.tenfold (digitsOf digits))), rest)
    else (none, t)

/-- A number: a float if it has a fraction or an exponent, else a whole number, which must not
have too many digits. -/
def number? (t : Text) : Option (Value × Text) := do
  let (negative, body) := match expect? '-' t with
    | some rest => (true, rest)
    | none => (false, t)
  let (whole, rest) ← whole? body
  let (behind, rest) := fraction rest
  let (exp, rest) := exponent rest
  if behind.isEmpty && exp.isNone then
    if whole.length ≤ digitLimit then
      some (.int (Text.signed negative (number (digitsOf whole))), rest)
    else none
  else
    let x := Binary64.ofDigits negative (digitsOf (whole ++ behind))
      (exp.getD 0 - behind.length)
    some (.float x, rest)

/-! ## §4. Values. -/

/-- Why a text is not read. -/
inductive ReadError where
  /-- It is not JSON. -/
  | malformed
  /-- Its lists and objects stand too deep in each other. -/
  | tooDeep
  deriving DecidableEq, Repr

/-- A text without what was looked for is malformed. -/
def found {α : Type} : Option α → Except ReadError α
  | none => .error .malformed
  | some a => .ok a

/-- How many lists and objects may stand in each other when a process reads a body with the stack
that it has by default. -/
def usualNesting : Nat := 988

/-- The words that are values. -/
def words : List (Text × Value) :=
  [("null", .null), ("true", .bool true), ("false", .bool false), ("NaN", .float .nan),
   ("Infinity", .float (.infinity false)), ("-Infinity", .float (.infinity true))]

/-- A word or a number at the front of a text. -/
def scalar? (t : Text) : Option (Value × Text) :=
  match words.findSome? fun w => (word? w.1 t).map fun rest => (w.2, rest) with
  | some r => some r
  | none => number? t

mutual

/-- One value at the front of a text, and the rest; the first argument bounds the steps of the
recursion, the second the lists and objects that may still be opened in each other. -/
def value : Nat → Nat → Text → Except ReadError (Value × Text)
  | 0, _, _ => .error .malformed
  | _, _, [] => .error .malformed
  | fuel + 1, levels, c :: rest =>
    if c = CodePoint.ofChar '"' then found ((string? rest).map fun r => (.text r.1, r.2))
    else if c = CodePoint.ofChar '[' then
      match levels with
      | 0 => .error .tooDeep
      | levels + 1 =>
        match expect? ']' (skip rest) with
        | some after => .ok (.list [], after)
        | none => (items fuel levels (skip rest)).map fun r => (.list r.1, r.2)
    else if c = CodePoint.ofChar '\x7b' then
      match levels with
      | 0 => .error .tooDeep
      | levels + 1 =>
        match expect? '\x7d' (skip rest) with
        | some after => .ok (.object [], after)
        | none => (members fuel levels (skip rest)).map fun r =>
            (.object (r.1.foldl (fun fields m => Fields.put m.1 m.2 fields) []), r.2)
    else found (scalar? (c :: rest))

/-- The items of a list up to its closing bracket, one at least. -/
def items : Nat → Nat → Text → Except ReadError (List Value × Text)
  | 0, _, _ => .error .malformed
  | fuel + 1, levels, t =>
    match value fuel levels t with
    | .error e => .error e
    | .ok (v, rest) =>
      match expect? ',' (skip rest) with
      | some more => (items fuel levels (skip more)).map fun r => (v :: r.1, r.2)
      | none => found ((expect? ']' (skip rest)).map fun after => ([v], after))

/-- The fields of an object up to its closing brace, one at least. -/
def members : Nat → Nat → Text → Except ReadError (List (Text × Value) × Text)
  | 0, _, _ => .error .malformed
  | fuel + 1, levels, t =>
    match (expect? '"' t).bind string? with
    | none => .error .malformed
    | some (name, afterName) =>
      match expect? ':' (skip afterName) with
      | none => .error .malformed
      | some afterColon =>
        match value fuel levels (skip afterColon) with
        | .error e => .error e
        | .ok (v, rest) =>
          match expect? ',' (skip rest) with
          | some more => (members fuel levels (skip more)).map fun r => ((name, v) :: r.1, r.2)
          | none =>
            found ((expect? '\x7d' (skip rest)).map fun after => ([(name, v)], after))

end

/-- The value that a text writes, with so many lists and objects in each other at most. A level of
nesting takes two steps and at least one character, so twice the length bounds the recursion. -/
def read (t : Text) (nesting : Nat := usualNesting) : Except ReadError Value :=
  match value (2 * t.length + 2) nesting (skip t) with
  | .error e => .error e
  | .ok (v, rest) => if (skip rest).isEmpty then .ok v else .error .malformed

end Json

end JobWatch
