/-
  JobWatch.Text.Wide
  ──────────────────
  **UTF-16 AND UTF-32.**

  Octets are grouped into units of two or four, in either order; sixteen-bit
  units that form a surrogate pair stand for one code point, and a surrogate
  without a partner passes as it is.
-/
import JobWatch.Text.Utf8

namespace JobWatch

namespace Wide

/-- The order of the octets of a unit. -/
inductive Order where
  /-- The most significant octet first. -/
  | big
  /-- The least significant octet first. -/
  | little
  deriving DecidableEq, Repr

/-- The number that the octets of a unit write. -/
def unit (order : Order) (octets : List UInt8) : Nat :=
  let bigFirst := match order with
    | .big => octets
    | .little => octets.reverse
  bigFirst.foldl (fun n b => n * 0x100 + b.toNat) 0

/-- Sixteen-bit units; there are none if an octet is left over. -/
def units16? (order : Order) : Bytes → Option (List Nat)
  | [] => some []
  | [_] => none
  | a :: b :: rest => (units16? order rest).map (unit order [a, b] :: ·)

/-- Thirty-two-bit units; there are none if octets are left over. -/
def units32? (order : Order) : Bytes → Option (List Nat)
  | [] => some []
  | a :: b :: c :: d :: rest => (units32? order rest).map (unit order [a, b, c, d] :: ·)
  | _ => none

/-- Surrogate pairs become single code points. -/
def joinPairs : Text → Text
  | [] => []
  | [c] => [c]
  | hi :: lo :: rest =>
    if hi.isHighSurrogate && lo.isLowSurrogate then CodePoint.ofPair hi lo :: joinPairs rest
    else hi :: joinPairs (lo :: rest)

/-- The text of sixteen-bit units. -/
def read16 (order : Order) (bytes : Bytes) : Option Text :=
  (units16? order bytes).map fun units => joinPairs (units.map CodePoint.ofNat)

/-- The text of thirty-two-bit units, each of which has to be a code point. -/
def read32 (order : Order) (bytes : Bytes) : Option Text :=
  (units32? order bytes).bind fun units =>
    units.mapM fun n => if n < 0x110000 then some (CodePoint.ofNat n) else none

end Wide

end JobWatch
