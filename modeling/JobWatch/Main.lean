/-
  JobWatch.Main
  ─────────────
  **THE COMMAND LINE.**

  Counts the words of the file named by `--input` into the file named by
  `--output`. Everything but the reading and writing of the two files is the
  library's.
-/
import JobWatch.WordCount.Arguments

open JobWatch

/-- How the command is used. -/
def usageText : String := "usage: wordcount [-h] --input INPUT --output OUTPUT"

/-- A path as the system wants it; nothing has an empty one. -/
def pathOf (file : WordCount.Target) : String := (Text.toString? file.text).getD ""

/-- Counts from one file to another; gives the exit code. -/
def countFile (input output : WordCount.Target) : IO UInt32 := do
  let content ← IO.FS.readBinFile (pathOf input)
  match WordCount.countsOf? content.toList with
  | none =>
    IO.eprintln "wordcount: the input is not UTF-8"
    return 1
  | some counts =>
    IO.FS.writeBinFile (pathOf output) ⟨(WordCount.fileOf counts.tally.rows).toArray⟩
    return 0

/-- Understands the arguments and counts. -/
def main (argv : List String) : IO UInt32 := do
  match WordCount.arguments (argv.map Text.ofString) with
  | .error .help =>
    IO.println usageText
    return 0
  | .error _ =>
    IO.eprintln usageText
    return 2
  | .ok (input, output) =>
    try countFile input output
    catch e =>
      IO.eprintln (toString e)
      return 1
