/-
  JobWatch.Number.Shortest
  ────────────────────────
  **THE SHORTEST DECIMAL THAT READS BACK.**

  Every positive binary64 number rounds from an interval of reals around it.
  The decimal shown for it is the one with the fewest digits in that
  interval, and the nearest to the number among those. It is written
  positionally while its point stands within sixteen digits, and with an
  exponent beyond.
-/
import JobWatch.Number.Binary64

namespace JobWatch

namespace Binary64

/-! ## §1. Choosing the digits. -/

/-- An interval around a value, in quarters of `2 ^ scale`, which is kept as a ratio. -/
structure Neighbourhood where
  /-- The lower end. -/
  low : Nat
  /-- The value itself. -/
  mid : Nat
  /-- The upper end. -/
  high : Nat
  /-- Both ends belong to the interval. -/
  closed : Bool
  /-- The numerator of the unit. -/
  unitNum : Nat
  /-- The denominator of the unit. -/
  unitDen : Nat

/-- The reals that round to a positive finite number. -/
def neighbourhood (x : Binary64) : Neighbourhood :=
  let m := x.significand
  let unit := x.scale - 2
  -- below a power of two the next number is only half as far away
  let below := if x.fraction = 0 ∧ 1 < x.exponent.val then 1 else 2
  { low := 4 * m - below, mid := 4 * m, high := 4 * m + 2, closed := m % 2 == 0,
    unitNum := 2 ^ unit.toNat, unitDen := 2 ^ (-unit).toNat }

/-- The exponent of ten of the first digit of `num / den`, for ratios above `10 ^ (-400)`. -/
def decimalExponent (num den : Nat) : Int :=
  ((Nat.toDigits 10 (num * 10 ^ (400 : Nat) / den)).length : Int) - 401

/-- The grid point `c · 10 ^ step` lies in the interval. -/
def Neighbourhood.holds (v : Neighbourhood) (c : Nat) (step : Int) : Bool :=
  let point := c * 10 ^ step.toNat * v.unitDen
  let low := v.low * v.unitNum * 10 ^ (-step).toNat
  let high := v.high * v.unitNum * 10 ^ (-step).toNat
  if v.closed then low ≤ point && point ≤ high else low < point && point < high

/-- The neighbour of the value on the grid of multiples of `10 ^ step` that lies in the
interval; the nearer one if both do, and the even one if both are as near. -/
def Neighbourhood.onGrid? (v : Neighbourhood) (step : Int) : Option Nat :=
  let num := v.mid * v.unitNum * 10 ^ (-step).toNat
  let den := 10 ^ step.toNat * v.unitDen
  let below := num / den
  if v.holds below step then
    if v.holds (below + 1) step then some (roundHalfEven num den) else some below
  else if v.holds (below + 1) step then some (below + 1) else none

/-- A point of the coarsest grid that has one in the interval, and the exponent of ten of its
last digit; the grids from `10 ^ step` down are tried, so many as `grids` says. -/
def Neighbourhood.search (v : Neighbourhood) (step : Int) : Nat → Nat × Int
  | 0 => (v.mid * v.unitNum / v.unitDen, 0)
  | grids + 1 =>
    match v.onGrid? step with
    | some c => (c, step)
    | none => v.search (step - 1) grids

/-- The shortest digits of a positive finite number, and the exponent of ten of the last;
seventeen digits always suffice. -/
def shortest (x : Binary64) : Nat × Int :=
  let v := x.neighbourhood
  v.search (decimalExponent (v.mid * v.unitNum) v.unitDen) 17

/-! ## §2. Writing them. -/

/-- A text repeated. -/
def zeros (n : Nat) : Text := List.replicate n (CodePoint.ofChar '0')

/-- The digits with a point `point` places behind their start, or in scientific notation. -/
def place (digits : Text) (point : Int) : Text :=
  if point ≤ -4 ∨ 16 < point then
    let e := point - 1
    let size := Text.ofNat e.natAbs
    digits.take 1 ++ (if digits.length ≤ 1 then [] else CodePoint.ofChar '.' :: digits.drop 1)
      ++ CodePoint.ofChar 'e' :: (if e < 0 then '-' else '+')
      :: (if size.length < 2 then CodePoint.ofChar '0' :: size else size)
  else if point ≤ 0 then
    Text.ofString "0." ++ zeros (-point).toNat ++ digits
  else
    let n := point.toNat
    if digits.length ≤ n then digits ++ zeros (n - digits.length) ++ Text.ofString ".0"
    else digits.take n ++ CodePoint.ofChar '.' :: digits.drop n

/-- The text of a binary64 number: the shortest decimal that reads back. -/
def display (x : Binary64) : Text :=
  if x.isNaN then Text.ofString "nan"
  else
    let sign : Text := if x.negative then [CodePoint.ofChar '-'] else []
    if x.isInfinite then sign ++ Text.ofString "inf"
    else if x.isZero then sign ++ Text.ofString "0.0"
    else
      let (m, e) := x.shortest
      let all := Text.ofNat m
      let point := e + all.length
      sign ++ place (all.dropEndWhile (· = CodePoint.ofChar '0')) point

end Binary64

end JobWatch
