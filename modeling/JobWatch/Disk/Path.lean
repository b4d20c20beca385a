/-
  JobWatch.Disk.Path
  ──────────────────
  **PATHS OF FILES.**

  A path is written as a text and looked up as octets: the names between the
  slashes, from the root or from where the program runs.
-/
import JobWatch.Text.Utf8

namespace JobWatch

/-- Why a file cannot be opened, or its content cannot be read. -/
inductive FileError where
  /-- No path is given. -/
  | noPath
  /-- The path holds a surrogate that stands for no octet. -/
  | unencodable
  /-- The path holds a zero octet. -/
  | zeroOctet
  /-- The path, or a name in it, is too long. -/
  | tooLong
  /-- There is nothing at the path. -/
  | missing
  /-- A name that is followed by others is no directory. -/
  | notDirectory
  /-- There is a directory at the path. -/
  | isDirectory
  /-- The content is not UTF-8. -/
  | malformed
  deriving DecidableEq, Repr

/-- The name of a file or a directory. -/
abbrev FileName := Bytes

/-- A path as it is looked up. -/
structure Path where
  /-- It begins at the root. -/
  absolute : Bool
  /-- The names on the way. -/
  names : List FileName
  /-- A slash follows the last name. -/
  slashed : Bool
  deriving DecidableEq

namespace Path

/-- A path has to be shorter than this many octets. -/
def lengthLimit : Nat := 4096

/-- The most octets of a name. -/
def nameLimit : Nat := 255

/-- The path that a text writes. -/
def read (t : Text) : Except FileError Path :=
  match Utf8.encodeEscaped? t, (t.splitAt '/').mapM Utf8.encodeEscaped? with
  | some octets, some pieces =>
    if octets.contains 0 then .error .zeroOctet
    else if octets.isEmpty then .error .missing
    else if octets.length < lengthLimit then
      .ok {
        absolute := t.head? = some (CodePoint.ofChar '/')
        names := pieces.filter fun n => !n.isEmpty
        slashed := t.getLast? = some (CodePoint.ofChar '/') }
    else .error .tooLong
  | _, _ => .error .unencodable

/-- The name of the directory itself. -/
def self : FileName := Utf8.encode "."

/-- The name of the directory around it. -/
def parent : FileName := Utf8.encode ".."

end Path

end JobWatch
