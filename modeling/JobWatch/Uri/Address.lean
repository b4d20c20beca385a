/-
  JobWatch.Uri.Address
  ────────────────────
  **ADDRESSES.**

  An address is read from a text in one normal form: scheme and host in small
  letters, no default port, dot segments resolved, and in each component
  everything escaped that may not stand there. An address without scheme or
  host is relative; it is completed at the root of no host.
-/
import JobWatch.Uri.Host

namespace JobWatch

/-- An address in normal form. -/
structure Address where
  /-- The scheme, empty in a relative address. -/
  scheme : Text
  /-- What stands before the host and `@`. -/
  userInfo : Text
  /-- The host, without the brackets of a numeric one; empty in a relative address. -/
  host : Text
  /-- The port, if it is not the one that the scheme implies. -/
  port : Option Int
  /-- The path. -/
  path : Text
  /-- What stands behind `?`, if that is there. -/
  query : Option Text
  /-- What stands behind `#`, if that is there. -/
  fragment : Option Text
  deriving DecidableEq

namespace Address

/-! ## §1. Limits. -/

/-- The most characters of an address or of one of its components. -/
def lengthLimit : Nat := 65536

/-- An ASCII control character, which no address may hold. -/
def isControl (c : CodePoint) : Bool := c.val < 0x20 || c.val == 0x7F

/-- The text is short enough and free of control characters. -/
def admits (t : Text) : Bool := t.length ≤ lengthLimit && !t.any isControl

/-! ## §2. Taking a text apart. -/

/-- A character of a scheme after its first letter. -/
def isSchemeMark (c : CodePoint) : Bool :=
  c.isLetter || c.isAsciiDigit || c.val == 0x2B || c.val == 0x2E || c.val == 0x2D

/-- The scheme in front of a colon, empty if there is none, and the rest. -/
def takeScheme (t : Text) : Text × Text :=
  match t with
  | [] => ([], t)
  | c :: _ =>
    let run := if c.isLetter then t.takeWhile isSchemeMark else []
    match t.drop run.length with
    | d :: rest => if d = CodePoint.ofChar ':' then (run, rest) else ([], t)
    | [] => ([], t)

/-- The characters before the first of `stops`, and the rest. -/
def upTo (stops : List Nat) (t : Text) : Text × Text :=
  (t.takeWhile fun c => !stops.contains c.val, t.dropWhile fun c => !stops.contains c.val)

/-- What stands between two slashes and the path, empty if the slashes are not there. -/
def takeAuthority : Text → Text × Text
  | a :: b :: rest =>
    if a = CodePoint.ofChar '/' ∧ b = CodePoint.ofChar '/' then upTo [0x2F, 0x3F, 0x23] rest
    else ([], a :: b :: rest)
  | t => ([], t)

/-- What stands behind the mark `c`, up to the first of `stops`, if the mark is there. -/
def takeMarked (c : CodePoint) (stops : List Nat) (t : Text) : Option Text × Text :=
  match t with
  | [] => (none, t)
  | d :: rest =>
    if d = c then
      let (part, left) := upTo stops rest
      (some part, left)
    else (none, t)

/-- The user information in front of the last `@`, empty if there is none, and the rest. -/
def takeUserInfo (t : Text) : Text × Text :=
  match t.reverse.dropWhile (· ≠ CodePoint.ofChar '@') with
  | [] => ([], t)
  | _ :: front => (front.reverse, t.drop (front.length + 1))

/-- The host, and what stands behind it: a host in brackets reaches to the last bracket, any
other to the first colon. -/
def takeHost (t : Text) : Text × Text :=
  match t with
  | [] => ([], [])
  | c :: rest =>
    match rest.reverse.dropWhile (· ≠ CodePoint.ofChar ']') with
    | [] => upTo [0x3A] t
    | inside =>
      if c = CodePoint.ofChar '[' then (c :: inside.reverse, t.drop (inside.length + 1))
      else upTo [0x3A] t

/-! ## §3. The components. -/

/-- The port that a scheme implies. -/
def defaultPort? (scheme : Text) : Option Int :=
  [("ftp", 21), ("http", 80), ("https", 443), ("ws", 80), ("wss", 443)].findSome? fun p =>
    if scheme = Text.ofString p.1 then some p.2 else none

/-- The port in normal form: none if it is not given or is the one implied. -/
def normalPort (scheme : Text) (t : Text) : Except AddressError (Option Int) :=
  if t.isEmpty then .ok none
  else match t.readInt? with
    | none => .error .invalid
    | some n => .ok (if some n = defaultPort? scheme then none else some n)

/-- The segments that are left when the dot segments are resolved; the kept ones come in
reverse. -/
def resolve : List Text → List Text → List Text
  | [], kept => kept
  | s :: rest, kept =>
    if s = [CodePoint.ofChar '.'] then resolve rest kept
    else if s = [CodePoint.ofChar '.', CodePoint.ofChar '.'] then
      resolve rest (if kept = [] ∨ kept = [[]] then kept else kept.drop 1)
    else resolve rest (s :: kept)

/-- The path without dot segments. -/
def normalPath (t : Text) : Text := Text.join ['/'] (resolve (t.splitAt '/') []).reverse

/-- The path fits to what stands in front of it. -/
def pathFits (hasScheme hasAuthority : Bool) (path : Text) : Bool :=
  if hasAuthority then path.isEmpty || path.head? = some (CodePoint.ofChar '/')
  else hasScheme || !((Text.ofString "//").isPrefixOf path || (Text.ofString ":").isPrefixOf path)

/-! ## §4. Putting an address together. -/

/-- The address of the given parts. -/
def ofParts (scheme authority path : Text) (query fragment : Option Text) :
    Except AddressError Address := do
  let (userInfo, rest) := takeUserInfo authority
  let (host, behind) := takeHost rest
  let userInfo ← Component.quote Component.barredInUserInfo userInfo
  let host ← Host.normal host
  let port ← normalPort scheme
    (if behind.head? = some (CodePoint.ofChar ':') then behind.drop 1 else behind)
  let hasScheme := !scheme.isEmpty
  let hasAuthority := !userInfo.isEmpty || !host.isEmpty || port.isSome
  if pathFits hasScheme hasAuthority path then
    let path ← Component.quote Component.barredInPath
      (if hasScheme || hasAuthority then normalPath path else path)
    let query ← Component.quote? Component.barredInQuery query
    let fragment ← Component.quote? Component.barredInFragment fragment
    return { scheme := scheme.map CodePoint.toLower, userInfo, host, port, path, query, fragment }
  else .error .invalid

/-- The address that a text writes. -/
def read (t : Text) : Except AddressError Address :=
  if admits t then
    let (scheme, rest) := takeScheme t
    let (authority, rest) := takeAuthority rest
    let (path, rest) := upTo [0x3F, 0x23] rest
    let (query, rest) := takeMarked '?' [0x23] rest
    let (fragment, _) := takeMarked '#' [] rest
    ofParts scheme authority path query fragment
  else .error .invalid

/-- The part between the slashes and the path. -/
def authority (a : Address) : Text :=
  (if a.userInfo.isEmpty then [] else a.userInfo ++ [CodePoint.ofChar '@'])
    ++ (if a.host.contains (CodePoint.ofChar ':') then
          CodePoint.ofChar '[' :: a.host ++ [CodePoint.ofChar ']']
        else a.host)
    ++ match a.port with
      | none => []
      | some n => CodePoint.ofChar ':' :: Text.ofInt n

/-- The address names a scheme and a host. -/
def isAbsolute (a : Address) : Bool := !a.scheme.isEmpty && !a.host.isEmpty

/-- A relative address hangs from the root of no host, and has no fragment there. -/
def completed (a : Address) : Except AddressError Address :=
  if a.isAbsolute then .ok a
  else
    let path := CodePoint.ofChar '/' :: a.path.dropWhile (· = CodePoint.ofChar '/')
    if admits path && admits (a.query.getD []) then ofParts [] [] path a.query none
    else .error .invalid

/-- The address with another query. -/
def withQuery (a : Address) (query : Option Text) : Except AddressError Address :=
  if [a.authority, a.path, query.getD [], a.fragment.getD []].all admits then
    ofParts a.scheme a.authority a.path query a.fragment
  else .error .invalid

/-- The text of an address. -/
def text (a : Address) : Text :=
  let authority := a.authority
  (if a.scheme.isEmpty then [] else a.scheme ++ [CodePoint.ofChar ':'])
    ++ (if authority.isEmpty then [] else Text.ofString "//" ++ authority)
    ++ a.path
    ++ (match a.query with
      | none => []
      | some q => CodePoint.ofChar '?' :: q)
    ++ match a.fragment with
      | none => []
      | some f => CodePoint.ofChar '#' :: f

end Address

end JobWatch
