/-
  JobWatch.WordCount.Words
  ────────────────────────
  **THE WORDS OF A TEXT.**

  A word is a longest run of ASCII letters and apostrophes; whatever stands
  between two words is no part of either.
-/
import JobWatch.Text.CodePoint

namespace JobWatch

namespace WordCount

/-- A letter of a word: an ASCII letter or an apostrophe. -/
def isWordMark (c : CodePoint) : Bool := c.isLetter || c = CodePoint.ofChar '\''

/-- The words of a text, in order. -/
def words (t : Text) : List Text :=
  (t.splitWhere fun c => !isWordMark c).filter fun w => !w.isEmpty

end WordCount

end JobWatch
