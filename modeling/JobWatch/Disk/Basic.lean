/-
  JobWatch.Disk.Basic
  ───────────────────
  **FILES AND DIRECTORIES.**

  A disk is a tree of directories with files in them. A path is followed name
  by name, and every name but the last has to be a directory; then the file at
  its end is read, or made anew in the last directory.
-/
import JobWatch.Disk.Path

namespace JobWatch

/-- A place on a disk: the names that lead to it from the root. -/
abbrev Location := List FileName

/-- What is on a disk. -/
structure Disk where
  /-- The files. -/
  files : List (Location × Bytes)
  /-- The directories besides the root. -/
  directories : List Location
  /-- Where a path begins that does not begin at the root. -/
  here : Location

/-- What is at a place. -/
inductive Entry where
  /-- A file with its content. -/
  | file (content : Bytes)
  /-- A directory. -/
  | directory
  deriving DecidableEq

namespace Disk

/-! ## §1. Places. -/

/-- What is at a place, if there is something. -/
def entry? (d : Disk) (place : Location) : Option Entry :=
  match d.files.lookup place with
  | some content => some (.file content)
  | none =>
    if place = [] ∨ place ∈ d.directories then some .directory else none

/-- The disk with a file of this content at a place. -/
def put (d : Disk) (place : Location) (content : Bytes) : Disk :=
  { d with files := (place, content) :: d.files.filter fun f => f.1 ≠ place }

/-! ## §2. Following a path. -/

/-- The directory that is reached from another by names of directories. -/
def enter (d : Disk) : Location → List FileName → Except FileError Location
  | place, [] => .ok place
  | place, name :: rest =>
    if name = Path.self then d.enter place rest
    else if name = Path.parent then d.enter place.dropLast rest
    else if Path.nameLimit < name.length then .error .tooLong
    else match d.entry? (place ++ [name]) with
      | none => .error .missing
      | some (.file _) => .error .notDirectory
      | some .directory => d.enter (place ++ [name]) rest

/-- The directory of the last name of a path, and that name, if it is not a name for a directory
whatever is on the disk. -/
def approach (d : Disk) (p : Path) : Except FileError (Location × Option FileName) :=
  (d.enter (if p.absolute then [] else d.here) p.names.dropLast).map fun place =>
    (place, p.names.getLast?.filter fun n => n ≠ Path.self ∧ n ≠ Path.parent)

/-- The content of the file at a path. -/
def read (d : Disk) (p : Path) : Except FileError Bytes :=
  match d.approach p with
  | .error e => .error e
  | .ok (_, none) => .error .isDirectory
  | .ok (place, some name) =>
    if Path.nameLimit < name.length then .error .tooLong
    else match d.entry? (place ++ [name]) with
      | none => .error .missing
      | some .directory => .error .isDirectory
      | some (.file content) => if p.slashed then .error .notDirectory else .ok content

/-- Where a file can be made, or made anew, at a path. -/
def spot (d : Disk) (p : Path) : Except FileError Location :=
  match d.approach p with
  | .error e => .error e
  | .ok (_, none) => .error .isDirectory
  | .ok (place, some name) =>
    if p.slashed then .error .isDirectory
    else if Path.nameLimit < name.length then .error .tooLong
    else if d.entry? (place ++ [name]) = some .directory then .error .isDirectory
    else .ok (place ++ [name])

/-- The disk with a file of this content at a path. -/
def write (d : Disk) (p : Path) (content : Bytes) : Except FileError Disk :=
  (d.spot p).map fun place => d.put place content

end Disk

end JobWatch
