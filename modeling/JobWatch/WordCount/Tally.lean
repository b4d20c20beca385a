/-
  JobWatch.WordCount.Tally
  ────────────────────────
  **COUNTING WORDS.**

  A tally lists words with their counts in the order in which the words first
  came. Counting a text line by line also counts the lines that are blank.
-/
import JobWatch.Text.Blank
import JobWatch.Value.Display
import JobWatch.WordCount.Words

namespace JobWatch

namespace WordCount

/-! ## §1. Tallies. -/

/-- Words with their counts. -/
abbrev Tally := List (Text × Nat)

namespace Tally

/-- Counts a word once more. -/
def add (w : Text) : Tally → Tally
  | [] => [(w, 1)]
  | (v, n) :: rest => if v = w then (v, n + 1) :: rest else (v, n) :: add w rest

/-- Counts words in order. -/
def addAll (tally : Tally) (ws : List Text) : Tally := ws.foldl (fun t w => add w t) tally

/-- How often a word was counted. -/
def count (tally : Tally) (w : Text) : Nat := (tally.lookup w).getD 0

end Tally

/-! ## §2. Lines. -/

/-- What is counted in some lines. -/
structure Counts where
  /-- The words. -/
  tally : Tally := []
  /-- How many lines are blank. -/
  emptyLines : Nat := 0
  deriving DecidableEq

/-- Counts one line more. -/
def Counts.addLine (c : Counts) (line : Text) : Counts where
  tally := c.tally.addAll (words line)
  emptyLines := if line.trim.isEmpty then c.emptyLines + 1 else c.emptyLines

/-- Counts lines. -/
def countLines (lines : List Text) : Counts := lines.foldl Counts.addLine {}

/-! ## §3. Tables. -/

/-- A row of a table. -/
def row (word count : Value) : Text :=
  word.display ++ Text.ofString ": " ++ count.display

/-- The rows of a tally. -/
def Tally.rows (tally : Tally) : List Text := tally.map fun e => row (.text e.1) (.int e.2)

/-- The rows of a table whose entries may be given more than once: the last one counts, in the
place of the first. -/
def tableRows (entries : List (Text × Value)) : List Text :=
  (entries.foldl (fun fields e => Fields.put e.1 e.2 fields) []).map fun e =>
    row (.text e.1) e.2

end WordCount

end JobWatch
