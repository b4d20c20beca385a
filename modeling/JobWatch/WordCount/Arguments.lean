/-
  JobWatch.WordCount.Arguments
  ────────────────────────────
  **THE COMMAND LINE OF THE WORD COUNT.**

  Two options name the files, and both have to be given; the last one given
  counts. The name of a long option may be cut short while no other begins
  like it, and its value may follow behind `=` or as the next argument. What
  every argument is gets settled first; then the options are taken in order,
  so that help is given unless an earlier option is at fault.
-/
import JobWatch.WordCount.File

namespace JobWatch

namespace WordCount

/-- Why a command line does not lead to a count. -/
inductive Usage where
  /-- Help is asked for. -/
  | help
  /-- The command line cannot be understood. -/
  | wrong
  deriving DecidableEq, Repr

/-- The options. -/
inductive Setting where
  /-- Help. -/
  | help
  /-- The file to read. -/
  | input
  /-- The file to write. -/
  | output
  deriving DecidableEq, Repr

namespace Setting

/-- The options by their long names. -/
def long : List (Text × Setting) :=
  [("--help", .help), ("--input", .input), ("--output", .output)]

/-- The options by all their names. -/
def named : List (Text × Setting) := ("-h", .help) :: long

end Setting

/-! ## §1. What the arguments are. -/

/-- What an argument is. -/
inductive Word where
  /-- Asks for help. -/
  | help
  /-- Asks for help with something attached that help does not take. -/
  | misused
  /-- Says which file to read, if that is attached. -/
  | input (attached : Option Target)
  /-- Says which file to write, if that is attached. -/
  | output (attached : Option Target)
  /-- Looks like an option, but is none. -/
  | stray
  /-- Two dashes: the rest are values. -/
  | rest
  /-- A value. -/
  | value (t : Text)
  deriving DecidableEq

/-- The character of options. -/
def dash : CodePoint := CodePoint.ofChar '-'

/-- The file that an attached value names; two dashes name none. -/
def Target.ofAttached (t : Text) : Target := if t = [dash, dash] then .nothing else .path t

/-- An option by its long name, with the value behind the equals sign, if there is one. -/
def Word.ofSetting : Setting → Option Text → Word
  | .help, none => .help
  | .help, some _ => .misused
  | .input, attached => .input (attached.map Target.ofAttached)
  | .output, attached => .output (attached.map Target.ofAttached)

/-- What is attached to `-h` are letters of more options, of which there is but the one. -/
def Word.ofHelpTail (letters : Text) : Word :=
  if letters.isEmpty || letters.any (· ≠ CodePoint.ofChar 'h') then .misused else .help

/-- The name in front of an equals sign and the value behind it. -/
def splitValue (t : Text) : Text × Option Text :=
  match t.cut? '=' with
  | none => (t, none)
  | some (name, value) => (name, some value)

/-- The text without a line feed at its end. -/
def dropBreak (t : Text) : Text :=
  if t.getLast? = some (CodePoint.ofChar '\n') then t.dropLast else t

/-- A dash and a number, which is a value; a line feed may follow. -/
def isNegative (t : Text) : Bool :=
  match dropBreak t with
  | [] => false
  | d :: body =>
    let whole := body.takeWhile fun c => c.decimalDigit?.isSome
    let behind := body.drop whole.length
    let digits := fun (p : Text) => p.all fun c => c.decimalDigit?.isSome
    d = dash && match behind with
      | [] => !whole.isEmpty
      | p :: fraction => p = CodePoint.ofChar '.' && !fraction.isEmpty && digits fraction

/-- What an argument is when it is no option by its full name. -/
def abbreviated (t : Text) : Except Usage Word :=
  let plain : Word :=
    if isNegative t || t.contains (CodePoint.ofChar ' ') then .value t else .stray
  if (Text.ofString "--").isPrefixOf t then
    let (name, value) := splitValue t
    match Setting.long.filter fun o => name.isPrefixOf o.1 with
    | [] => .ok plain
    | [(_, s)] => .ok (.ofSetting s value)
    | _ => .error .wrong
  else if (Text.ofString "-h").isPrefixOf t then .ok (.ofHelpTail (t.drop 2))
  else .ok plain

/-- What an argument is. -/
def classify (t : Text) : Except Usage Word :=
  if t.head? ≠ some dash then .ok (.value t)
  else match Setting.named.lookup t with
    | some s => .ok (.ofSetting s none)
    | none =>
      if t.length = 1 then .ok (.value t)
      else match splitValue t with
        | (_, none) => abbreviated t
        | (name, some value) =>
          if name = Text.ofString "-h" then .ok (.ofHelpTail value)
          else match Setting.long.lookup name with
            | some s => .ok (.ofSetting s (some value))
            | none => abbreviated t

/-- What the arguments are; behind two dashes all are values. -/
def classifyAll : List Text → Except Usage (List Word)
  | [] => .ok []
  | t :: rest =>
    if t = [dash, dash] then .ok (.rest :: rest.map Word.value)
    else match classify t with
      | .error e => .error e
      | .ok w => (classifyAll rest).map (w :: ·)

/-! ## §2. What the command line says. -/

/-- What has been taken from a command line. -/
structure Taken where
  /-- The file to read. -/
  input : Option Target := none
  /-- The file to write. -/
  output : Option Target := none
  /-- An argument was left over. -/
  surplus : Bool := false

/-- Takes the arguments in order. -/
def take (taken : Taken) : List Word → Except Usage Taken
  | [] => .ok taken
  | .help :: _ => .error .help
  | .misused :: _ => .error .wrong
  | .input (some file) :: more => take { taken with input := some file } more
  | .output (some file) :: more => take { taken with output := some file } more
  | .input none :: .value path :: more => take { taken with input := some (.path path) } more
  | .output none :: .value path :: more => take { taken with output := some (.path path) } more
  | .input none :: _ => .error .wrong
  | .output none :: _ => .error .wrong
  | _ :: more => take { taken with surplus := true } more

/-- The two files that a command line names. -/
def arguments (argv : List Text) : Except Usage (Target × Target) :=
  match classifyAll argv with
  | .error e => .error e
  | .ok given =>
    match take {} given with
    | .error e => .error e
    | .ok taken =>
      match taken.input, taken.output, taken.surplus with
      | some input, some output, false => .ok (input, output)
      | _, _, _ => .error .wrong

end WordCount

end JobWatch
