/-
  JobWatch.Proofs.InstantOrder
  ────────────────────────────
  **INSTANTS IN A LINE.**

  Instants are ordered as their distances from the start of 1970, and two of
  them at the same distance are the same instant.  So they are a linear
  order, and everything that is known of linear orders may be said of them.

  A message stands in that line by its timestamp; one whose timestamp is
  unknown or an error stands below every instant:

      rank_eq_coe_iff   — the rank is an instant exactly when the timestamp is
      isAfter_iff       — a message is new when its timestamp is later
      isUpTo_iff        — it is old when its timestamp is known and not later
-/
import Mathlib.Order.WithBot
import JobWatch.Listing.Fetch

namespace JobWatch

/-! ## §1. The order on instants. -/

namespace Instant

theorem le_iff_totalNanos_le (a b : Instant) : a ≤ b ↔ a.totalNanos ≤ b.totalNanos := by
  rw [le_iff_not_lt, lt_iff_totalNanos_lt]
  exact Int.not_lt

/-- Instants are compared by their seconds, and then by their nanoseconds. -/
theorem lt_iff_seconds (a b : Instant) :
    a < b ↔ a.seconds < b.seconds ∨ a.seconds = b.seconds ∧ a.nanos < b.nanos := by
  show a.before b = true ↔ _
  simp only [before, Bool.or_eq_true, Bool.and_eq_true, decide_eq_true_eq, beq_iff_eq]

theorem eq_iff_seconds (a b : Instant) : a = b ↔ a.seconds = b.seconds ∧ a.nanos = b.nanos := by
  obtain ⟨s, n, hn⟩ := a
  obtain ⟨s', n', hn'⟩ := b
  rw [Instant.mk.injEq]

/-- An instant is known by its distance from the start of 1970. -/
theorem totalNanos_injective {a b : Instant} (h : a.totalNanos = b.totalNanos) : a = b := by
  obtain ⟨s, n, hn⟩ := a
  obtain ⟨s', n', hn'⟩ := b
  simp only [totalNanos, nanosPerSecond] at h hn hn'
  have hs : s = s' := by omega
  have hnn : n = n' := by omega
  subst hs hnn
  rfl

theorem totalNanos_ofMillis (m : Int) : (ofMillis m).totalNanos = 1000000 * m := by
  simp only [totalNanos, ofMillis, nanosPerSecond]
  omega

/-- Milliseconds are counted down from the nanoseconds. -/
theorem millis_eq (i : Instant) : i.millis = i.totalNanos / 1000000 := by
  have hlt := i.nanos_lt
  simp only [millis, totalNanos, nanosPerSecond] at *
  omega

theorem millis_le_of_le {a b : Instant} (h : a ≤ b) : a.millis ≤ b.millis := by
  rw [le_iff_totalNanos_le] at h
  rw [millis_eq, millis_eq]
  exact Int.ediv_le_ediv (by decide) h

theorem ofMillis_lt_iff (m n : Int) : ofMillis m < ofMillis n ↔ m < n := by
  rw [lt_iff_totalNanos_lt, totalNanos_ofMillis, totalNanos_ofMillis]
  omega

/-- **Instants are a linear order.** -/
instance : LinearOrder Instant where
  le_refl a := by
    rw [le_iff_totalNanos_le]
  le_trans a b c hab hbc := by
    rw [le_iff_totalNanos_le] at *
    exact Int.le_trans hab hbc
  lt_iff_le_not_ge a b := by
    rw [lt_iff_totalNanos_lt, le_iff_totalNanos_le, le_iff_totalNanos_le]
    omega
  le_antisymm a b hab hba := by
    rw [le_iff_totalNanos_le] at *
    exact totalNanos_injective (Int.le_antisymm hab hba)
  le_total a b := by
    rw [le_iff_totalNanos_le, le_iff_totalNanos_le]
    exact Int.le_total _ _
  toDecidableLE := inferInstance
  toDecidableLT := inferInstance
  toDecidableEq := inferInstance

theorem before_eq_decide (a b : Instant) : a.before b = decide (a < b) := by
  show a.before b = decide (a.before b = true)
  simp

end Instant

/-! ## §2. Where a message stands. -/

namespace Message

/-- Where a message stands in the order of time: at its timestamp, or below every instant when
that is unknown. -/
def rank (m : Message) : WithBot Instant :=
  match m.timestamp with
  | .ok (some t) => (t : WithBot Instant)
  | _ => ⊥

/-- The message is known to be later than an instant. -/
def isAfter (since : Instant) (m : Message) : Bool := decide ((since : WithBot Instant) < m.rank)

/-- The message is known to be no later than an instant. -/
def isUpTo (bound : Instant) (m : Message) : Bool :=
  decide (⊥ < m.rank ∧ m.rank ≤ (bound : WithBot Instant))

/-- The timestamp of the message can be decoded, whether or not it is known then. -/
def Readable (m : Message) : Prop := ∃ t, m.timestamp = .ok t

theorem rank_eq_coe_iff (m : Message) (t : Instant) :
    m.rank = (t : WithBot Instant) ↔ m.timestamp = .ok (some t) := by
  unfold rank
  constructor
  · intro h
    split at h
    next t' ht =>
      rw [ht, WithBot.coe_inj.mp h]
    next => exact absurd h WithBot.bot_ne_coe
  · intro h
    rw [h]

theorem isAfter_iff (since : Instant) (m : Message) :
    m.isAfter since = true ↔ ∃ t, m.timestamp = .ok (some t) ∧ since < t := by
  unfold isAfter
  rw [decide_eq_true_eq, WithBot.lt_iff_exists_coe]
  constructor
  · rintro ⟨t, ht, hlt⟩
    exact ⟨t, (rank_eq_coe_iff m t).mp ht, WithBot.coe_lt_coe.mp hlt⟩
  · rintro ⟨t, ht, hlt⟩
    exact ⟨t, (rank_eq_coe_iff m t).mpr ht, WithBot.coe_lt_coe.mpr hlt⟩

theorem isUpTo_iff (bound : Instant) (m : Message) :
    m.isUpTo bound = true ↔ ∃ t, m.timestamp = .ok (some t) ∧ t ≤ bound := by
  unfold isUpTo
  rw [decide_eq_true_eq, WithBot.bot_lt_iff_ne_bot]
  constructor
  · rintro ⟨hne, hle⟩
    obtain ⟨t, ht⟩ := WithBot.ne_bot_iff_exists.mp hne
    rw [← ht] at hle
    exact ⟨t, (rank_eq_coe_iff m t).mp ht.symm, WithBot.coe_le_coe.mp hle⟩
  · rintro ⟨t, ht, hle⟩
    rw [(rank_eq_coe_iff m t).mpr ht]
    exact ⟨WithBot.coe_ne_bot, WithBot.coe_le_coe.mpr hle⟩

/-- A message said so many seconds after the start of 1970. -/
def saidAt (seconds : Int) : Message where
  time := .object [("seconds", .int seconds)]

theorem timestamp_saidAt {seconds : Int}
    (h : Instant.minSeconds ≤ seconds ∧ seconds ≤ Instant.maxSeconds) :
    (saidAt seconds).timestamp = .ok (some ⟨seconds, 0, by decide⟩) := by
  show (Except.ok (Instant.ofPair? seconds 0) : Except NumberError (Option Instant)) = _
  rw [Instant.ofPair?, dif_pos (by decide), if_pos h]
  rfl

end Message

end JobWatch
