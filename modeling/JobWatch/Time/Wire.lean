/-
  JobWatch.Time.Wire
  ──────────────────
  **TIMESTAMPS AS THEY COME FROM A SERVICE.**

  A timestamp is a text, or an object with `seconds` and at will `nanos`,
  either of which may be anything that stands for a whole number. What is
  absent or unreadable has no instant. An infinite float is the one field
  that is an error rather than no timestamp.
-/
import JobWatch.Time.Stamp
import JobWatch.Value.Basic

namespace JobWatch

namespace Instant

/-- The instant of a pair of numbers that lie in range. -/
def ofPair? (seconds nanos : Int) : Option Instant :=
  if h : 0 ≤ nanos ∧ nanos < nanosPerSecond then
    if minSeconds ≤ seconds ∧ seconds ≤ maxSeconds then
      some ⟨seconds, nanos.toNat, toNat_lt h⟩
    else none
  else none

/-- A field that must be a whole number: a malformed one makes the timestamp unreadable, an
infinite one is an error. -/
def field (v : Value) : Except NumberError (Option Int) :=
  match v.toInt with
  | .ok n => .ok (some n)
  | .error .infinite => .error .infinite
  | .error _ => .ok none

/-- The instant of an object with seconds and nanoseconds. -/
def ofFields (fields : Fields) : Except NumberError (Option Instant) :=
  match Fields.get? "seconds" fields with
  | none => .ok none
  | some seconds =>
    match field seconds with
    | .error e => .error e
    | .ok none => .ok none
    | .ok (some s) =>
      match field ((Fields.get? "nanos" fields).getD (.int 0)) with
      | .error e => .error e
      | .ok none => .ok none
      | .ok (some n) => .ok (ofPair? s n)

/-- The instant that a wire value stamps. -/
def ofWire : Value → Except NumberError (Option Instant)
  | .text t => .ok (ofText? t)
  | .object fields => ofFields fields
  | _ => .ok none

end Instant

end JobWatch
