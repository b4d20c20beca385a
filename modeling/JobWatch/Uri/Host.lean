/-
  JobWatch.Uri.Host
  ─────────────────
  **HOSTS.**

  A host is a name, four numbers with points between them, or, in brackets,
  eight groups of hexadecimal digits, of which a gap may leave some out. What
  looks like four numbers has to be just that, even if it could be a name.
-/
import JobWatch.Domain.Name
import JobWatch.Number.Whole
import JobWatch.Uri.Component

namespace JobWatch

namespace Host

/-! ## §1. Four numbers. -/

/-- A number of the four: at most 255, without zeros in front. -/
def isQuadPart (p : Text) : Bool :=
  1 ≤ p.length && p.length ≤ 3 && p.all CodePoint.isAsciiDigit
    && number (p.filterMap CodePoint.decimalDigit?) ≤ 255
    && (p.length == 1 || p.head? != some (CodePoint.ofChar '0'))

/-- Four numbers with points between them. -/
def isQuad (t : Text) : Bool :=
  let parts := t.splitAt '.'
  parts.length == 4 && parts.all isQuadPart

/-- The text can be taken for four runs of digits with one character between neighbours. Every
character that is no digit stands between two runs; a run of digits, too, can give up every
second one of its inner digits to stand between two. -/
def looksLikeQuad (t : Text) : Bool :=
  let runs := t.splitWhere fun c => !c.isAsciiDigit
  runs.all (fun r => !r.isEmpty) && runs.length ≤ 4
    && 4 ≤ runs.length + (runs.map fun r => (r.length - 1) / 2).foldr (· + ·) 0

/-! ## §2. Groups of hexadecimal digits. -/

/-- A group: one to four hexadecimal digits. -/
def isGroup (p : Text) : Bool :=
  1 ≤ p.length && p.length ≤ 4 && p.all fun c => c.hexValue?.isSome

/-- How many groups stand in a text, with colons between them. -/
def groupCount? (t : Text) : Option Nat :=
  if t.isEmpty then some 0
  else
    let parts := t.splitAt ':'
    if parts.all isGroup then some parts.length else none

/-- How many groups stand in a text if four numbers at its end count as two. -/
def groupCountToEnd? (t : Text) : Option Nat :=
  let parts := t.splitAt ':'
  if parts.dropLast.all isGroup && parts.getLast?.any isQuad then some (parts.length + 1)
  else groupCount? t

/-- What stands on both sides of the first two colons in a row. -/
def cutGap? : Text → Option (Text × Text)
  | a :: b :: rest =>
    if a = CodePoint.ofChar ':' ∧ b = CodePoint.ofChar ':' then some ([], rest)
    else (cutGap? (b :: rest)).map fun r => (a :: r.1, r.2)
  | _ => none

/-- Eight groups, or at most seven around a gap. -/
def isGrouped (t : Text) : Bool :=
  match cutGap? t with
  | none => groupCountToEnd? t == some 8
  | some (front, back) =>
    match groupCount? front, groupCountToEnd? back with
    | some m, some n => m + n ≤ 7
    | _, _ => false

/-- Groups, and behind a percent sign the network that they belong to, if one is named. -/
def isBracketed (t : Text) : Bool :=
  match t.cut? '%' with
  | none => isGrouped t
  | some (groups, network) =>
    isGrouped groups && !network.isEmpty && !network.contains (CodePoint.ofChar '%')

/-! ## §3. All hosts. -/

/-- The host in normal form, without the brackets around groups; a name in small letters and in
ASCII. A name that is ASCII already need not be a domain name. -/
def normal (t : Text) : Except AddressError Text :=
  if t.isEmpty then .ok []
  else if looksLikeQuad t then
    if isQuad t then .ok t else .error .invalid
  else if t.head? = some (CodePoint.ofChar '[') ∧ t.getLast? = some (CodePoint.ofChar ']') then
    let inside := (t.drop 1).dropLast
    if isBracketed inside then .ok inside else .error .invalid
  else if t.all CodePoint.isAscii then
    Component.quote Component.barredInHost (t.map CodePoint.toLower)
  else
    match Domain.toAscii? (Domain.lower t) with
    | some name => .ok name
    | none => .error .invalid

end Host

end JobWatch
