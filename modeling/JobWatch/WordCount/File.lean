/-
  JobWatch.WordCount.File
  ───────────────────────
  **COUNTING FROM FILE TO FILE.**

  The input is read whole, as strict UTF-8, before the output is touched; its
  lines end at a line feed, a carriage return, or one after the other. The
  output has one row for each word.
-/
import JobWatch.Disk.Basic
import JobWatch.Log
import JobWatch.WordCount.Tally

namespace JobWatch

namespace WordCount

/-! ## §1. Lines of a file. -/

/-- Every line break becomes a line feed. -/
def unifyBreaks : Text → Text
  | [] => []
  | c :: rest =>
    if c = CodePoint.ofChar '\r' then
      match rest with
      | [] => [CodePoint.ofChar '\n']
      | d :: more =>
        if d = CodePoint.ofChar '\n' then d :: unifyBreaks more
        else CodePoint.ofChar '\n' :: unifyBreaks (d :: more)
    else c :: unifyBreaks rest

/-- The lines of a text, each with the line feed that ends it; the last may have none. -/
def linesOf : Text → List Text
  | [] => []
  | c :: rest =>
    if c = CodePoint.ofChar '\n' then [c] :: linesOf rest
    else Text.extend c (linesOf rest)

/-- The lines of a file. -/
def fileLines (t : Text) : List Text := linesOf (unifyBreaks t)

/-- Rows as the content of a file. -/
def fileOf (rows : List Text) : Bytes :=
  Utf8.encode (rows.flatMap fun r => r ++ [CodePoint.ofChar '\n'])

/-- What is counted in the content of a file, if that is a text. -/
def countsOf? (content : Bytes) : Option Counts :=
  (Utf8.read content).map fun t => countLines (fileLines t)

/-! ## §2. The whole run. -/

/-- What is named as a file. -/
inductive Target where
  /-- The file at a path. -/
  | path (t : Text)
  /-- Nothing, which cannot be opened. -/
  | nothing
  deriving DecidableEq

namespace Target

/-- The path of a target. -/
def toPath : Target → Except FileError Path
  | path t => Path.read t
  | nothing => .error .noPath

/-- The text of a target. -/
def text : Target → Text
  | path t => t
  | nothing => []

end Target

/-- The logger of the word count. -/
def logger : Logger := { name := "dataflow_monitor.wordcount" }

/-- What is logged of a count. -/
def report (c : Counts) (path : Text) : Text :=
  Text.ofString "Counted " ++ Text.ofNat c.tally.length ++ Text.ofString " distinct words ("
    ++ Text.ofNat c.emptyLines ++ Text.ofString " empty lines) from " ++ path

/-- Everything that a run does. -/
structure Run where
  /-- What was counted. -/
  result : Except FileError Counts
  /-- The disk afterwards. -/
  disk : Disk
  /-- What was logged. -/
  log : Log := []

/-- What is counted in a file. -/
def countFile (d : Disk) (input : Target) : Except FileError Counts := do
  let content ← d.read (← input.toPath)
  match countsOf? content with
  | none => .error .malformed
  | some counts => return counts

/-- The disk with a table of what was counted in a file. -/
def writeTable (d : Disk) (output : Target) (counts : Counts) : Except FileError Disk := do
  d.write (← output.toPath) (fileOf counts.tally.rows)

/-- Counts the words of one file into another. -/
def run (d : Disk) (input output : Target) : Run :=
  match countFile d input with
  | .error e => { result := .error e, disk := d }
  | .ok counts =>
    match writeTable d output counts with
    | .error e => { result := .error e, disk := d }
    | .ok after =>
      { result := .ok counts, disk := after
        log := logger.record .info (report counts input.text) none }

end WordCount

end JobWatch
