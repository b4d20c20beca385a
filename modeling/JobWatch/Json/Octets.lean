/-
  JobWatch.Json.Octets
  ────────────────────
  **JSON FROM OCTETS.**

  A body names its encoding by a byte order mark, or shows it by where the
  zero octets stand among the first four: JSON begins with an ASCII
  character, whose wide forms have zeros in known places.
-/
import JobWatch.Json.Reader
import JobWatch.Text.Wide

namespace JobWatch

namespace Json

/-- The text of a body, by the encoding that its first octets show. -/
def decode? (bytes : Bytes) : Option Text :=
  match bytes with
  | 0x00 :: 0x00 :: 0xFE :: 0xFF :: rest => Wide.read32 .big rest
  | 0xFF :: 0xFE :: 0x00 :: 0x00 :: rest => Wide.read32 .little rest
  | 0xFE :: 0xFF :: rest => Wide.read16 .big rest
  | 0xFF :: 0xFE :: rest => Wide.read16 .little rest
  | 0xEF :: 0xBB :: 0xBF :: rest => Utf8.readPassing rest
  | a :: b :: c :: d :: _ =>
    if a = 0 then if b = 0 then Wide.read32 .big bytes else Wide.read16 .big bytes
    else if b = 0 then
      if c = 0 ∧ d = 0 then Wide.read32 .little bytes else Wide.read16 .little bytes
    else Utf8.readPassing bytes
  | [a, b] =>
    if a = 0 then Wide.read16 .big bytes
    else if b = 0 then Wide.read16 .little bytes
    else Utf8.readPassing bytes
  | _ => Utf8.readPassing bytes

/-- The value that a body writes, with so many lists and objects in each other at most. -/
def readOctets (bytes : Bytes) (nesting : Nat := usualNesting) : Except ReadError Value :=
  match decode? bytes with
  | none => .error .malformed
  | some t => read t nesting

end Json

end JobWatch
