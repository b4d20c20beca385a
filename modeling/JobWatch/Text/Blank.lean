/-
  JobWatch.Text.Blank
  ───────────────────
  **TWO NOTIONS OF BLANK.**

  Unicode white space as a text trim sees it, and the smaller set that may
  surround a number: the four information separators `1C`–`1F` are blank in a
  text but not around a number.
-/
import JobWatch.Text.CodePoint

namespace JobWatch

namespace CodePoint

/-- White space that may stand around the text of a number. -/
def isNumberBlank (c : CodePoint) : Bool :=
  c.within 0x09 0x0D || c.val == 0x20 || c.val == 0x85 || c.val == 0xA0
    || c.val == 0x1680 || c.within 0x2000 0x200A || c.within 0x2028 0x2029
    || c.val == 0x202F || c.val == 0x205F || c.val == 0x3000

/-- White space that a trim removes. -/
def isBlank (c : CodePoint) : Bool := c.isNumberBlank || c.within 0x1C 0x1F

/-- What may surround a number is blank. -/
theorem isBlank_of_isNumberBlank {c : CodePoint} (h : c.isNumberBlank = true) :
    c.isBlank = true := by
  simp [isBlank, h]

end CodePoint

namespace Text

/-- The text without white space at its ends. -/
def trim (t : Text) : Text := t.trimWhile CodePoint.isBlank

/-- The text without the white space that may surround a number. -/
def trimNumber (t : Text) : Text := t.trimWhile CodePoint.isNumberBlank

end Text

end JobWatch
