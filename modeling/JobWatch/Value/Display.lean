/-
  JobWatch.Value.Display
  ──────────────────────
  **THE TEXT OF A VALUE.**

  A text shows as itself; any other value shows in the notation that log
  lines, commands and tables use, in which a text inside a list or an object
  stands in quotes.
-/
import JobWatch.Number.Shortest
import JobWatch.Text.Printable
import JobWatch.Value.Basic

namespace JobWatch

/-! ## §1. Quoted texts. -/

namespace Text

/-- The last `width` hexadecimal digits of a number, in small letters. -/
def hex (width n : Nat) : Text := go width n []
where
  /-- The digits in front of those already found. -/
  go : Nat → Nat → Text → Text
    | 0, _, found => found
    | w + 1, n, found => go w (n / 16) (CodePoint.ofChar (n % 16).digitChar :: found)

/-- A code point as it stands between the quotes `quote`. -/
def escaped (quote : CodePoint) (c : CodePoint) : Text :=
  if c = quote ∨ c = CodePoint.ofChar '\\' then [CodePoint.ofChar '\\', c]
  else if c = CodePoint.ofChar '\t' then ofString "\\t"
  else if c = CodePoint.ofChar '\n' then ofString "\\n"
  else if c = CodePoint.ofChar '\r' then ofString "\\r"
  else if c.isPrintable then [c]
  else if c.val < 0x100 then ofString "\\x" ++ hex 2 c.val
  else if c.val < 0x10000 then ofString "\\u" ++ hex 4 c.val
  else ofString "\\U" ++ hex 8 c.val

/-- The text in single quotes, or in double quotes if it holds single quotes only. -/
def quoted (t : Text) : Text :=
  let single := CodePoint.ofChar '\''
  let double := CodePoint.ofChar '"'
  let quote := if t.contains single && !t.contains double then double else single
  quote :: t.flatMap (escaped quote) ++ [quote]

end Text

/-! ## §2. Values. -/

namespace Value

mutual

/-- A value as it shows inside a list or an object. -/
def quoted : Value → Text
  | .null => Text.ofString "None"
  | .bool b => Text.ofString (if b then "True" else "False")
  | .int n => Text.ofInt n
  | .float x => x.display
  | .text t => t.quoted
  | .list items => CodePoint.ofChar '[' :: Text.join (Text.ofString ", ") (quotedItems items)
      ++ [CodePoint.ofChar ']']
  | .object fields =>
      CodePoint.ofChar '\x7b' :: Text.join (Text.ofString ", ") (quotedFields fields)
        ++ [CodePoint.ofChar '\x7d']

/-- The items of a list as they show. -/
def quotedItems : List Value → List Text
  | [] => []
  | v :: rest => quoted v :: quotedItems rest

/-- The fields of an object as they show. -/
def quotedFields : List (Text × Value) → List Text
  | [] => []
  | (name, v) :: rest => (name.quoted ++ Text.ofString ": " ++ quoted v) :: quotedFields rest

end

/-- The text of a value. -/
def display : Value → Text
  | .text t => t
  | v => quoted v

end Value

end JobWatch
