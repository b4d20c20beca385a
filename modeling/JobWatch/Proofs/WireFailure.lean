/-
  JobWatch.Proofs.WireFailure
  ───────────────────────────
  **WHEN A TIMESTAMP IS AN ERROR.**

  Whatever a service sends as a timestamp decodes to an instant or to
  nothing, with one exception: a pair with an infinite float among the
  numbers that are looked at.  JSON writes such a float as a number beyond
  all binary64 numbers, or by its name.

      toInt_eq_infinite_iff  — the one value of which the whole number is
                               not merely missing
      ofWire_eq_error_iff    — a timestamp is an error exactly when its pair
                               comes to an infinite float
      ofWire_ok_iff          — it decodes exactly when its pair does not
-/
import Mathlib.Data.List.Basic
import JobWatch.Proofs.Utf8RoundTrip
import JobWatch.Time.Wire
import JobWatch.Value.Equality

namespace JobWatch

/-! ## §1. Infinite numbers. -/

namespace Binary64

theorem isNaN_of_isInfinite {x : Binary64} (h : x.isInfinite = true) : x.isNaN = false := by
  unfold isInfinite at h
  unfold isNaN
  rw [Bool.and_eq_true, beq_iff_eq, beq_iff_eq] at h
  simp [h.2]

/-- Only an infinite float has no whole part to be left. -/
theorem truncate_eq_infinite_iff (x : Binary64) :
    x.truncate = .error .infinite ↔ x.isInfinite = true := by
  unfold truncate
  constructor
  · intro h
    split at h
    next => exact absurd h (by simp)
    next =>
      split at h
      next hinf => exact hinf
      next => exact absurd h (by simp)
  · intro h
    rw [if_neg (by simp [isNaN_of_isInfinite h]), if_pos h]

end Binary64

namespace Value

/-- The value is an infinite float, of either sign. -/
def isInfinite : Value → Bool
  | .float x => x.isInfinite
  | _ => false

/-- A value is infinite as a whole number when it is an infinite float: a text never is, however
large the number that it writes. -/
theorem toInt_eq_infinite_iff (v : Value) :
    v.toInt = .error .infinite ↔ v.isInfinite = true := by
  cases v with
  | float x => exact x.truncate_eq_infinite_iff
  | text t =>
    cases h : t.readInt? with
    | none => simp [toInt, h, isInfinite]
    | some n => simp [toInt, h, isInfinite]
  | null => simp [toInt, isInfinite]
  | bool b => simp [toInt, isInfinite]
  | int n => simp [toInt, isInfinite]
  | list items => simp [toInt, isInfinite]
  | object fields => simp [toInt, isInfinite]

end Value

/-! ## §2. Fields of a pair. -/

namespace Instant

/-- A field fails only by being infinite. -/
theorem field_eq_error_iff (v : Value) (e : NumberError) :
    field v = .error e ↔ e = .infinite ∧ v.isInfinite = true := by
  rw [← Value.toInt_eq_infinite_iff]
  unfold field
  cases h : v.toInt with
  | ok n => simp
  | error e' => cases e' <;> simp [eq_comm]

/-- A field is a whole number when its value stands for one. -/
theorem field_eq_some_iff (v : Value) (n : Int) : field v = .ok (some n) ↔ v.toInt = .ok n := by
  unfold field
  cases h : v.toInt with
  | ok m => simp
  | error e => cases e <;> simp

/-- The numbers of a pair that are looked at come to an infinite float: the seconds are one, or
they are a number and the nanoseconds are one. -/
def Overflows (fields : Fields) : Prop :=
  ∃ seconds, Fields.get? "seconds" fields = some seconds
    ∧ (seconds.isInfinite = true
      ∨ (∃ s, seconds.toInt = .ok s)
        ∧ ∃ nanos, Fields.get? "nanos" fields = some nanos ∧ nanos.isInfinite = true)

theorem ofFields_eq_error_iff (fields : Fields) (e : NumberError) :
    ofFields fields = .error e ↔ e = .infinite ∧ Overflows fields := by
  unfold ofFields Overflows
  cases hseconds : Fields.get? "seconds" fields with
  | none => simp
  | some seconds =>
    simp only [Option.some.injEq, exists_eq_left']
    cases hfield : field seconds with
    | error e' =>
      obtain ⟨rfl, hinf⟩ := (field_eq_error_iff seconds e').mp hfield
      simp only [hinf, Except.error.injEq, true_or, and_true]
      exact eq_comm
    | ok s? =>
      -- the seconds decoded, so they are not infinite
      have hfinite : seconds.isInfinite = false := by
        rw [Bool.eq_false_iff]
        intro hinf
        rw [(field_eq_error_iff seconds .infinite).mpr ⟨rfl, hinf⟩] at hfield
        exact absurd hfield (by simp)
      cases s? with
      | none =>
        have hno : ¬ ∃ s, seconds.toInt = .ok s := by
          rintro ⟨s, hs⟩
          rw [(field_eq_some_iff seconds s).mpr hs] at hfield
          exact absurd hfield (by simp)
        simp [hfinite, hno]
      | some s =>
        have hs : ∃ s, seconds.toInt = .ok s := ⟨s, (field_eq_some_iff seconds s).mp hfield⟩
        simp only [hfinite, hs, Bool.false_eq_true, false_or, true_and]
        cases hnanos : Fields.get? "nanos" fields with
        -- missing nanoseconds are zero
        | none =>
          have hzero : field (.int 0) = .ok (some 0) := rfl
          simp [hzero]
        | some nanos =>
          simp only [Option.getD_some, Option.some.injEq, exists_eq_left']
          rw [← field_eq_error_iff]
          cases field nanos with
          | error e' => simp
          | ok n? => cases n? <;> simp

/-! ## §3. Timestamps. -/

/-- **A timestamp is an error exactly when it is a pair that overflows**, and the error is always
the same. -/
theorem ofWire_eq_error_iff (v : Value) (e : NumberError) :
    ofWire v = .error e ↔ e = .infinite ∧ ∃ fields, v = .object fields ∧ Overflows fields := by
  cases v with
  | object fields =>
    show ofFields fields = .error e ↔ _
    rw [ofFields_eq_error_iff]
    simp
  | text t => simp [ofWire]
  | null => simp [ofWire]
  | bool b => simp [ofWire]
  | int n => simp [ofWire]
  | float x => simp [ofWire]
  | list items => simp [ofWire]

/-- **Every timestamp decodes**, to an instant or to nothing, **unless it is a pair that
overflows.** -/
theorem ofWire_ok_iff (v : Value) :
    (∃ t, ofWire v = .ok t) ↔ ¬ ∃ fields, v = .object fields ∧ Overflows fields := by
  constructor
  · rintro ⟨t, ht⟩ hover
    have herror := (ofWire_eq_error_iff v .infinite).mpr ⟨rfl, hover⟩
    rw [ht] at herror
    exact absurd herror (by simp)
  · intro hno
    cases hv : ofWire v with
    | ok t => exact ⟨t, rfl⟩
    | error e => exact absurd ((ofWire_eq_error_iff v e).mp hv).2 hno

/-- A body may well write such a pair, as a number too large for a binary64 number. -/
theorem ofWire_largeSeconds :
    ∃ v, Json.readOctets (Utf8.encode "\x7b\"seconds\": 1e400\x7d") = .ok v
      ∧ ofWire v = .error .infinite := by
  have hread : Json.readOctets (Utf8.encode "\x7b\"seconds\": 1e400\x7d")
      = .ok (.object [("seconds", .float (.infinity false))]) := by
    rw [Json.readOctets_encode (by decide)]
    decide +kernel
  refine ⟨_, hread, ?_⟩
  rw [ofWire_eq_error_iff]
  exact ⟨rfl, _, rfl, _, rfl, Or.inl rfl⟩

end Instant

end JobWatch
