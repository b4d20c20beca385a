/-
  JobWatch.Domain.Label
  ─────────────────────
  **LABELS.**

  A label of a domain name holds permitted code points in normal form, begins
  with no mark, and keeps its hyphens away from its ends and from the places
  where the mark of the ASCII form stands. Some code points may stand only
  next to certain others, and what is written from right to left is not mixed
  with what is not.
-/
import JobWatch.Domain.Normal
import JobWatch.Domain.Permitted
import JobWatch.Domain.Punycode

namespace JobWatch

namespace Domain

/-! ## §1. Neighbours. -/

/-- Letters that join the letters on both sides. -/
def joiningBoth : List (Nat × Nat) :=
  [(0x620, 0x620), (0x626, 0x626), (0x628, 0x628), (0x62A, 0x62E), (0x633, 0x647), (0x649, 0x64A),
   (0x66E, 0x66F), (0x679, 0x687), (0x69A, 0x6BF), (0x6C1, 0x6C2), (0x6CC, 0x6CC), (0x6CE, 0x6CE),
   (0x6D0, 0x6D1), (0x6FA, 0x6FC), (0x6FF, 0x6FF), (0x712, 0x714), (0x71A, 0x71D), (0x71F, 0x727),
   (0x729, 0x729), (0x72B, 0x72B), (0x72D, 0x72E), (0x74E, 0x758), (0x75C, 0x76A), (0x76D, 0x770),
   (0x772, 0x772), (0x775, 0x777), (0x77A, 0x77F), (0x7CA, 0x7EA), (0x841, 0x845), (0x848, 0x848),
   (0x84A, 0x853), (0x855, 0x855), (0x860, 0x860), (0x862, 0x865), (0x868, 0x868), (0x886, 0x886),
   (0x889, 0x88D), (0x8A0, 0x8A9), (0x8AF, 0x8B0), (0x8B3, 0x8B8), (0x8BA, 0x8C8),
   (0x1820, 0x1878), (0x1887, 0x18A8), (0x18AA, 0x18AA), (0xA840, 0xA871), (0x10AC0, 0x10AC4),
   (0x10AD3, 0x10AD6), (0x10AD8, 0x10ADC), (0x10ADE, 0x10AE0), (0x10B80, 0x10B80),
   (0x10B82, 0x10B82), (0x10B86, 0x10B88), (0x10B8A, 0x10B8B), (0x10B8D, 0x10B8D),
   (0x10B90, 0x10B90), (0x10D01, 0x10D21), (0x10D23, 0x10D23), (0x10F30, 0x10F32),
   (0x10F34, 0x10F44), (0x10F70, 0x10F73), (0x10F76, 0x10F81), (0x10FB0, 0x10FB0),
   (0x10FB2, 0x10FB3), (0x10FB8, 0x10FB8), (0x10FBB, 0x10FBC), (0x10FBE, 0x10FBF),
   (0x10FC1, 0x10FC1), (0x10FC4, 0x10FC4), (0x1E922, 0x1E943)]

/-- Letters that join the letter before them. -/
def joiningBefore : List (Nat × Nat) :=
  [(0x622, 0x625), (0x627, 0x627), (0x629, 0x629), (0x62F, 0x632), (0x648, 0x648), (0x671, 0x673),
   (0x688, 0x699), (0x6C0, 0x6C0), (0x6C3, 0x6CB), (0x6CD, 0x6CD), (0x6CF, 0x6CF), (0x6D2, 0x6D5),
   (0x6EE, 0x6EF), (0x710, 0x710), (0x715, 0x719), (0x71E, 0x71E), (0x728, 0x728), (0x72A, 0x72A),
   (0x72C, 0x72C), (0x72F, 0x72F), (0x74D, 0x74D), (0x759, 0x75B), (0x76B, 0x76C), (0x771, 0x771),
   (0x773, 0x774), (0x778, 0x779), (0x840, 0x840), (0x846, 0x847), (0x849, 0x849), (0x854, 0x854),
   (0x856, 0x858), (0x867, 0x867), (0x869, 0x882), (0x88E, 0x88E), (0x8AA, 0x8AC), (0x8AE, 0x8AE),
   (0x8B1, 0x8B2), (0x8B9, 0x8B9), (0x10AC5, 0x10AC5), (0x10AC7, 0x10ACA), (0x10ACE, 0x10AD2),
   (0x10ADD, 0x10ADD), (0x10AE1, 0x10AE1), (0x10AE4, 0x10AE4), (0x10B81, 0x10B81),
   (0x10B83, 0x10B85), (0x10B89, 0x10B89), (0x10B8C, 0x10B8C), (0x10B8E, 0x10B8F),
   (0x10B91, 0x10B91), (0x10D22, 0x10D22), (0x10F33, 0x10F33), (0x10F74, 0x10F75),
   (0x10FB4, 0x10FB6), (0x10FB9, 0x10FBA), (0x10FBD, 0x10FBD), (0x10FC2, 0x10FC3)]

/-- Letters that join the letter behind them. -/
def joiningBehind : List (Nat × Nat) :=
  [(0xA872, 0xA872), (0x10ACD, 0x10ACD), (0x10AD7, 0x10AD7), (0x10D00, 0x10D00)]

/-- What joining letters do not see between them. -/
def isTransparent (c : CodePoint) : Bool :=
  isNonspacing c || c.val == 0x1171E || c.val == 0x1E94B

/-- The next letter joins to this side. -/
def joinsNext (ranges : List (Nat × Nat)) (t : Text) : Bool :=
  (t.find? fun c => !isTransparent c).any fun c => c.isIn joiningBoth || c.isIn ranges

/-- Greek letters. -/
def greek : List (Nat × Nat) :=
  [(0x371, 0x3E1), (0x3F3, 0x3FC), (0x1D26, 0x1D2A), (0x1F00, 0x1FF6), (0xAB65, 0xAB65)]

/-- Hebrew letters and marks. -/
def hebrew : List (Nat × Nat) :=
  [(0x591, 0x5F4), (0xFB1E, 0xFB1E)]

/-- Han characters, Hiragana and Katakana. -/
def japanese : List (Nat × Nat) :=
  [(0x3005, 0x3005), (0x3007, 0x3007), (0x3041, 0x3096), (0x309D, 0x309E), (0x30A1, 0x30FA),
   (0x30FD, 0x30FE), (0x31F0, 0x31FF), (0x3400, 0x9FFF), (0xFA0E, 0xFA29), (0x16FE3, 0x16FE3),
   (0x16FF0, 0x16FF1), (0x1AFF0, 0x1B000), (0x1B001, 0x1B11F), (0x1B120, 0x1B122),
   (0x1B150, 0x1B152), (0x1B164, 0x1B167), (0x20000, 0x3134A)]

/-- The Arabic digits. -/
def isArabicDigit (c : CodePoint) : Bool := c.within 0x660 0x669

/-- The Arabic digits in their eastern forms. -/
def isEasternDigit (c : CodePoint) : Bool := c.within 0x6F0 0x6F9

/-- The code point may stand where it does in the label: behind `before`, which comes in reverse,
and in front of `behind`. -/
def fits (label before : Text) (c : CodePoint) (behind : Text) : Bool :=
  let silenced := before.head?.any fun d => combiningClass d == silencing
  -- the joiners
  if c.val = 0x200C then
    silenced || (joinsNext joiningBehind before && joinsNext joiningBefore behind)
  else if c.val = 0x200D then silenced
  -- the middle dot
  else if c.val = 0xB7 then
    before.head? = some (CodePoint.ofChar 'l') && behind.head? = some (CodePoint.ofChar 'l')
  -- the signs of Greek and Hebrew numbers
  else if c.val = 0x375 then behind.head?.any fun d => d.isIn greek
  else if c.val = 0x5F3 || c.val = 0x5F4 then before.head?.any fun d => d.isIn hebrew
  -- the middle dot of Katakana
  else if c.val = 0x30FB then label.any fun d => d.isIn japanese
  else if isArabicDigit c then !label.any isEasternDigit
  else if isEasternDigit c then !label.any isArabicDigit
  else true

/-- All code points from here on may stand where they do. -/
def allFit (label before : Text) : Text → Bool
  | [] => true
  | c :: behind => isPermitted c && fits label before c behind && allFit label (c :: before) behind

/-! ## §2. Directions. -/

/-- The direction in which a code point is written. -/
inductive Direction where
  /-- From left to right. -/
  | right
  /-- From right to left. -/
  | left
  /-- An Arabic digit. -/
  | arabicDigit
  /-- Any other digit that has no direction. -/
  | digit
  /-- A mark, which goes with the letter before it. -/
  | mark
  /-- Neither. -/
  | neutral
  deriving DecidableEq

/-- Permitted code points without a direction. -/
def neutralRanges : List (Nat × Nat) :=
  [(0x2D, 0x2D), (0xB7, 0xB7), (0x2B9, 0x2BA), (0x2C6, 0x2CF), (0x2EC, 0x2EC), (0x375, 0x375),
   (0x200C, 0x200D), (0x2E2F, 0x2E2F), (0x30FB, 0x30FB), (0xA67F, 0xA67F), (0xA717, 0xA71F),
   (0xA788, 0xA788)]

/-- The blocks of the scripts that are written from right to left. -/
def leftwardBlocks : List (Nat × Nat) :=
  [(0x590, 0x8FF), (0xFB1D, 0xFDFF), (0xFE70, 0xFEFF), (0x10800, 0x10FFF), (0x1E800, 0x1EFFF)]

/-- Marks that are written from left to right. -/
def rightwardMarks : List Nat := [0xCBF, 0xCC6, 0x11A07, 0x11A08, 0x11C3F]

/-- The direction of a permitted code point. -/
def Direction.of (c : CodePoint) : Direction :=
  if isArabicDigit c || c.within 0x10D30 0x10D39 then .arabicDigit
  else if c.isAsciiDigit || isEasternDigit c then .digit
  else if c.isIn neutralRanges then .neutral
  else if isNonspacing c && !rightwardMarks.contains c.val then .mark
  else if c.isIn leftwardBlocks then .left
  else .right

/-- What is written from right to left begins with a letter, holds digits of one kind, nothing
that is written the other way, and ends with a letter or a digit, marks apart. -/
def isDirected (t : Text) : Bool :=
  let ways := t.map Direction.of
  if ways.contains .left || ways.contains .arabicDigit then
    ways.head? = some .left && !ways.contains .right
      && !(ways.contains .digit && ways.contains .arabicDigit)
      && (ways.filter (· ≠ .mark)).getLast?.any fun d => d ≠ .neutral
  else true

/-! ## §3. Labels. -/

/-- The hyphen. -/
def hyphen : CodePoint := CodePoint.ofChar '-'

/-- What a label in ASCII begins with if it stands for another. -/
def asciiMark : Text := "xn--"

/-- The text is a label. -/
def isLabel (t : Text) : Bool :=
  !t.isEmpty && allFit t [] t && isNormal t && isDirected t
    && !t.head?.any isMark
    && t.head? != some hyphen && t.getLast? != some hyphen
    && (t.drop 2).take 2 != [hyphen, hyphen]

/-- A label in ASCII that stands for another stands for a label. -/
def isAsciiLabel (t : Text) : Bool :=
  if asciiMark.isPrefixOf t then
    let numbers := t.drop asciiMark.length
    !numbers.isEmpty && numbers.getLast? != some hyphen && (Punycode.decode? numbers).any isLabel
  else isLabel t

/-- The most characters of a label in ASCII. -/
def labelLimit : Nat := 63

/-- A label in ASCII, if it is one and not too long. -/
def labelToAscii? (t : Text) : Option Text :=
  let ascii :=
    if t.all CodePoint.isAscii then if isAsciiLabel t then some t else none
    else if isLabel t then some (asciiMark ++ Punycode.encode t)
    else none
  ascii.filter fun a => a.length ≤ labelLimit

end Domain

end JobWatch
