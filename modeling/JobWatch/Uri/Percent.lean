/-
  JobWatch.Uri.Percent
  ────────────────────
  **PERCENT AND FORM ENCODING.**

  An identifier stands in a path as its UTF-8 octets, the letters, digits and
  `_.-~` as themselves and every other octet as `%XX`. In a query a space is
  written `+` instead. A component that is already part of an address keeps
  the `%XX` that it has.

      decode (encode t) = some t        for a text without surrogates
-/
import JobWatch.Text.Utf8

namespace JobWatch

namespace Percent

/-! ## §1. Octets. -/

/-- A code point that needs no encoding anywhere. -/
def isUnreserved (c : CodePoint) : Bool :=
  c.isLetter || c.isAsciiDigit || c.val == 0x5F || c.val == 0x2E || c.val == 0x2D || c.val == 0x7E

/-- A hexadecimal digit in capitals. -/
def hexDigit (n : Nat) : CodePoint :=
  if n < 10 then CodePoint.ofNat (0x30 + n) else CodePoint.ofNat (0x41 + (n - 10))

/-- An octet as `%XX`. -/
def escape (b : UInt8) : Text :=
  [CodePoint.ofChar '%', hexDigit (b.toNat / 16), hexDigit (b.toNat % 16)]

/-- A code point as the escapes of its octets. -/
def escapeOne (c : CodePoint) : Text := (Utf8.encodeOne c).flatMap escape

/-! ## §2. Identifiers. -/

/-- A code point as it stands in a path segment. -/
def encodeOne (c : CodePoint) : Text := if isUnreserved c then [c] else escapeOne c

/-- A text as a path segment. -/
def encode (t : Text) : Text := t.flatMap encodeOne

/-- A text as a path segment, unless it holds a surrogate. -/
def encode? (t : Text) : Option Text := if t.isScalar then some (encode t) else none

/-- The octets that a segment stands for; every `%` must open an escape. -/
def octets? : Text → Option Bytes
  | [] => some []
  | c :: rest =>
    if c = CodePoint.ofChar '%' then
      match rest with
      | h :: l :: more =>
        match h.hexValue?, l.hexValue? with
        | some h, some l => (octets? more).map (UInt8.ofNat (16 * h + l) :: ·)
        | _, _ => none
      | _ => none
    else (octets? rest).map (Utf8.encodeOne c ++ ·)

/-- The text that a segment stands for. -/
def decode (t : Text) : Option Text := (octets? t).bind Utf8.read

/-! ## §3. Form values. -/

/-- A code point as it stands in a form value. -/
def formOne (c : CodePoint) : Text :=
  if c.val = 0x20 then [CodePoint.ofChar '+'] else encodeOne c

/-- A text as a form value. -/
def form (t : Text) : Text := t.flatMap formOne

/-- A text as a form value, unless it holds a surrogate. -/
def form? (t : Text) : Option Text := if t.isScalar then some (form t) else none

/-- The text that a form value stands for. -/
def unform (t : Text) : Option Text :=
  decode (t.map fun c => if c = CodePoint.ofChar '+' then CodePoint.ofNat 0x20 else c)

/-! ## §4. Components of an address. -/

/-- What a component keeps as it is, apart from the unreserved: the visible ASCII characters
without the ones in `barred`. -/
def keeps (barred : List Nat) (c : CodePoint) : Bool :=
  c.within 0x21 0x7E && !barred.contains c.val

/-- A component with everything escaped that it may not hold; escapes that it has stay. -/
def quote (safe : CodePoint → Bool) : Text → Text
  | [] => []
  | c :: rest =>
    if c = CodePoint.ofChar '%' then
      match rest with
      | h :: l :: more =>
        if h.hexValue?.isSome && l.hexValue?.isSome then c :: h :: l :: quote safe more
        else (if safe c then [c] else escapeOne c) ++ quote safe (h :: l :: more)
      | [d] => (if safe c then [c] else escapeOne c) ++ quote safe [d]
      | [] => if safe c then [c] else escapeOne c
    else (if safe c then [c] else escapeOne c) ++ quote safe rest

end Percent

end JobWatch
