/-
  JobWatch.Uri.Component
  ──────────────────────
  **THE COMPONENTS OF AN ADDRESS.**

  Each component has characters of its own that it may not hold; those are
  escaped, and so is everything that is not visible ASCII. Escapes that a
  component already has stay.
-/
import JobWatch.Uri.Percent

namespace JobWatch

/-- Why a text is no address. -/
inductive AddressError where
  /-- It is not well-formed, or too long. -/
  | invalid
  /-- It holds a surrogate. -/
  | unencodable
  deriving DecidableEq, Repr

namespace Component

/-- What a query may not hold unescaped: quotes, angle brackets and the mark of the fragment. -/
def barredInQuery : List Nat := [0x22, 0x23, 0x3C, 0x3E]

/-- What a path may not hold unescaped. -/
def barredInPath : List Nat := barredInQuery ++ [0x3F, 0x60, 0x7B, 0x7D]

/-- What the user information may not hold unescaped. -/
def barredInUserInfo : List Nat :=
  barredInPath ++ [0x2F, 0x3B, 0x3D, 0x40, 0x5B, 0x5C, 0x5D, 0x5E, 0x7C]

/-- What a fragment may not hold unescaped. -/
def barredInFragment : List Nat := [0x22, 0x3C, 0x3E, 0x60]

/-- What a host may not hold unescaped. -/
def barredInHost : List Nat := [0x23, 0x2F, 0x3A, 0x3C, 0x3E, 0x3F, 0x40, 0x5B, 0x5D, 0x5E]

/-- A component with everything escaped that it may not hold. -/
def quote (barred : List Nat) (t : Text) : Except AddressError Text :=
  if t.isScalar then .ok (Percent.quote (Percent.keeps barred) t) else .error .unencodable

/-- A component that may be absent. -/
def quote? (barred : List Nat) : Option Text → Except AddressError (Option Text)
  | none => .ok none
  | some t => (quote barred t).map some

end Component

end JobWatch
