/-
  JobWatch.Domain.Name
  ────────────────────
  **DOMAIN NAMES.**

  A domain name is a row of labels with dots between them, and perhaps one dot
  at its end; four characters count as dots. In ASCII every label has its
  ASCII form, and a name is only so long.
-/
import JobWatch.Domain.Label
import JobWatch.Domain.Lower

namespace JobWatch

namespace Domain

/-- The full stop, in ASCII or in the forms of the East Asian scripts. -/
def isDot (c : CodePoint) : Bool := [0x2E, 0x3002, 0xFF0E, 0xFF61].contains c.val

/-- The most characters of a name, a dot at its end apart. -/
def nameLimit : Nat := 253

/-- A name in ASCII, if it is one and not too long. -/
def toAscii? (t : Text) : Option Text :=
  if nameLimit + 1 < t.length then none
  else
    let labels := t.splitWhere isDot
    let dotted := labels.getLast? = some []
    match (if dotted then labels.dropLast else labels).mapM labelToAscii? with
    | none => none
    | some labels =>
      let name := Text.join ['.'] labels
      if name.length ≤ nameLimit then
        some (if dotted then name ++ [CodePoint.ofChar '.'] else name)
      else none

end Domain

end JobWatch
