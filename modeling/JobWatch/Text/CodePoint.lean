/-
  JobWatch.Text.CodePoint
  ───────────────────────
  **CODE POINTS AND TEXTS.**

  A text is a list of Unicode code points, lone surrogates included: the
  bodies, identifiers and page tokens handled here may hold a surrogate that
  has no partner, and such a text is refused only where it has to be encoded.

      Text.ofString s      — the text of a literal
      Text.isScalar t      — no surrogate occurs in `t`
      Text.firstBadRun? t  — where the first run of surrogates stands
-/
namespace JobWatch

/-! ## §1. Code points. -/

/-- A Unicode code point; the surrogates `D800`–`DFFF` count as code points. -/
structure CodePoint where
  /-- The number of the code point. -/
  val : Nat
  /-- Code points end at `10FFFF`. -/
  isLt : val < 0x110000
  deriving DecidableEq

namespace CodePoint

/-- The code point of a character. -/
def ofChar (c : Char) : CodePoint :=
  ⟨c.val.toNat, by
    have h : Nat.isValidChar c.val.toNat := c.valid
    unfold Nat.isValidChar at h
    omega⟩

instance : Coe Char CodePoint := ⟨ofChar⟩

instance : Inhabited CodePoint := ⟨'?'⟩

/-- The code point with number `n`; U+FFFD when there is none. -/
def ofNat (n : Nat) : CodePoint :=
  if h : n < 0x110000 then ⟨n, h⟩ else ⟨0xFFFD, by omega⟩

/-- Code points are ordered by their numbers. -/
instance : LT CodePoint := ⟨fun a b => a.val < b.val⟩

instance (a b : CodePoint) : Decidable (a < b) :=
  inferInstanceAs (Decidable (a.val < b.val))

/-- The code point has a number from `lo` to `hi`. -/
def within (c : CodePoint) (lo hi : Nat) : Bool := lo ≤ c.val && c.val ≤ hi

/-- The code point lies in one of the ranges, ends included. -/
def isIn (c : CodePoint) (ranges : List (Nat × Nat)) : Bool := ranges.any fun r => c.within r.1 r.2

/-- A surrogate, which no encoding form can carry on its own. -/
def isSurrogate (c : CodePoint) : Bool := c.within 0xD800 0xDFFF

/-- A surrogate that opens a pair. -/
def isHighSurrogate (c : CodePoint) : Bool := c.within 0xD800 0xDBFF

/-- A surrogate that closes a pair. -/
def isLowSurrogate (c : CodePoint) : Bool := c.within 0xDC00 0xDFFF

/-- One of the 128 ASCII code points. -/
def isAscii (c : CodePoint) : Bool := c.val < 0x80

/-- An ASCII letter. -/
def isLetter (c : CodePoint) : Bool := c.within 0x41 0x5A || c.within 0x61 0x7A

/-- An ASCII digit. -/
def isAsciiDigit (c : CodePoint) : Bool := c.within 0x30 0x39

/-- The value of a hexadecimal digit. -/
def hexValue? (c : CodePoint) : Option Nat :=
  if c.within 0x30 0x39 then some (c.val - 0x30)
  else if c.within 0x41 0x46 then some (c.val - 0x41 + 10)
  else if c.within 0x61 0x66 then some (c.val - 0x61 + 10)
  else none

/-- An ASCII capital becomes a small letter; all else stays. -/
def toLower (c : CodePoint) : CodePoint :=
  if c.within 0x41 0x5A then ofNat (c.val + 0x20) else c

/-- The character of a code point, unless that is a surrogate. -/
def toChar? (c : CodePoint) : Option Char :=
  if h : Nat.isValidChar c.val then some (Char.ofNatAux c.val h) else none

/-- Two surrogates that form a pair stand for one code point. -/
def ofPair (hi lo : CodePoint) : CodePoint :=
  ofNat (0x10000 + (hi.val - 0xD800) * 0x400 + (lo.val - 0xDC00))

end CodePoint

/-! ## §2. Texts. -/

/-- A text: code points in order. -/
abbrev Text := List CodePoint

namespace Text

/-- The text of a string. -/
def ofString (s : String) : Text := s.toList.map CodePoint.ofChar

instance : Coe String Text := ⟨ofString⟩

/-- The string of a text, unless the text holds a surrogate. -/
def toString? (t : Text) : Option String :=
  (t.mapM CodePoint.toChar?).map String.ofList

/-- No surrogate occurs. -/
def isScalar (t : Text) : Bool := t.all fun c => !c.isSurrogate

/-- Where the first run of adjacent surrogates begins, and the run itself. -/
def firstBadRun? (t : Text) : Option (Nat × Text) :=
  match t.dropWhile (fun c => !c.isSurrogate) with
  | [] => none
  | bad => some (t.length - bad.length, bad.takeWhile CodePoint.isSurrogate)

/-- The text without the stretch at its end on which `drops` holds. -/
def dropEndWhile (drops : CodePoint → Bool) (t : Text) : Text :=
  (t.reverse.dropWhile drops).reverse

/-- The text without the stretches at both ends on which `drops` holds. -/
def trimWhile (drops : CodePoint → Bool) (t : Text) : Text :=
  dropEndWhile drops (t.dropWhile drops)

/-- A code point in front of some pieces joins the first one, whether or not it has begun. -/
def extend (c : CodePoint) : List Text → List Text
  | [] => [[c]]
  | piece :: pieces => (c :: piece) :: pieces

/-- The pieces between the code points that separate; always at least one. -/
def splitWhere (separates : CodePoint → Bool) : Text → List Text
  | [] => [[]]
  | c :: rest =>
    if separates c then [] :: splitWhere separates rest
    else extend c (splitWhere separates rest)

/-- The pieces between the places where `c` stands; always at least one. -/
def splitAt (c : CodePoint) (t : Text) : List Text := t.splitWhere (· = c)

/-- The pieces in order, with `sep` between neighbours. -/
def join (sep : Text) : List Text → Text
  | [] => []
  | [piece] => piece
  | piece :: pieces => piece ++ sep ++ join sep pieces

/-- The text before the first place where `c` stands, and the text after it. -/
def cut? (c : CodePoint) (t : Text) : Option (Text × Text) :=
  match t.dropWhile (· ≠ c) with
  | [] => none
  | _ :: rest => some (t.takeWhile (· ≠ c), rest)

end Text

end JobWatch
