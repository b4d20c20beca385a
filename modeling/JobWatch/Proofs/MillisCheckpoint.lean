/-
  JobWatch.Proofs.MillisCheckpoint
  ────────────────────────────────
  **A CHECKPOINT IN MILLISECONDS SKIPS NOTHING.**

  Milliseconds are counted down, before 1970 as after it.  So an instant is
  never before the start of its millisecond, and a fetch from that start gives
  what a fetch from the instant gives, with the messages of the millisecond in
  front that the instant has passed:

      make_ofMillis       — every count of milliseconds is an instant
      millis_ofMillis     — the instant has that count
      ofMillis_le_iff     — starts of milliseconds are compared by the counts
      fetch_millis        — a fetch from the start of a millisecond
      ofMillis_skips_none — all of this
-/
import JobWatch.Proofs.LaterCheckpoint

namespace JobWatch

/-! ## §1. Counts of milliseconds. -/

namespace Instant

/-- **Every count of milliseconds is an instant**: the rest of a division by a thousand lies
within a second, whatever the sign of the count. -/
theorem make_ofMillis (m : Int) : make (m / 1000) (m % 1000 * 1000000) = .ok (ofMillis m) := by
  have hlow : 0 ≤ m % 1000 := Int.emod_nonneg m (by decide)
  have hhigh : m % 1000 < 1000 := Int.emod_lt_of_pos m (by decide)
  have hrange : 0 ≤ m % 1000 * 1000000 ∧ m % 1000 * 1000000 < nanosPerSecond := by
    simp only [nanosPerSecond]
    omega
  have hnanos : (m % 1000 * 1000000).toNat = (m % 1000).toNat * 1000000 := by omega
  unfold make
  rw [dif_pos hrange]
  exact congrArg Except.ok ((eq_iff_seconds _ _).mpr ⟨rfl, hnanos⟩)

/-- **The instant of a count of milliseconds has that count.** -/
theorem millis_ofMillis (m : Int) : (ofMillis m).millis = m := by
  rw [millis_eq, totalNanos_ofMillis]
  omega

/-- **Starts of milliseconds are compared by the counts.** -/
theorem ofMillis_le_iff (m : Int) (i : Instant) : ofMillis m ≤ i ↔ m ≤ i.millis := by
  rw [le_iff_totalNanos_le, totalNanos_ofMillis, millis_eq]
  constructor
  · intro h
    omega
  · intro h
    omega

/-- An instant is not before the start of its millisecond. -/
theorem ofMillis_millis_le (i : Instant) : ofMillis i.millis ≤ i :=
  (ofMillis_le_iff _ _).mpr (Int.le_refl _)

end Instant

/-! ## §2. Fetching from the start of a millisecond. -/

/-- The message is said in the millisecond of an instant, and not after that instant. -/
def Message.SaidWithin (i : Instant) (m : Message) : Prop :=
  ∃ t, m.timestamp = .ok (some t) ∧ t.millis = i.millis ∧ t ≤ i

/-- What is after the start of the millisecond, and not after the instant, lies between them. -/
theorem Message.saidWithin_of_isUpTo {i : Instant} {m : Message}
    (hafter : m.isAfter (.ofMillis i.millis) = true) (hupTo : m.isUpTo i = true) :
    m.SaidWithin i := by
  obtain ⟨t, ht, hstart⟩ := (isAfter_iff _ m).mp hafter
  obtain ⟨t', ht', hle⟩ := (isUpTo_iff i m).mp hupTo
  -- a message has one timestamp
  obtain rfl : t = t' := by
    rw [ht] at ht'
    exact Option.some.inj (Except.ok.inj ht')
  have hfrom : i.millis ≤ t.millis := (Instant.ofMillis_le_iff _ t).mp (le_of_lt hstart)
  have hto : t.millis ≤ i.millis := Instant.millis_le_of_le hle
  exact ⟨t, ht, Int.le_antisymm hto hfrom, hle⟩

section Fetch

variable {σ : Type} (service : Service σ) (limit : Nat) (project job : Value) (i : Instant) (s : σ)

/-- The fetch from the instant is the later one of the two. -/
theorem result_fetch_instant :
    (fetch service limit project job (.instant i) s).result
      = (fetch service limit project job (.millis (.int i.millis)) s).result.map
          (List.filter fun m => !m.isUpTo i) :=
  fetch_later_result rfl rfl (Instant.ofMillis_millis_le i)

/-- **A fetch from the start of a millisecond** that goes well gives, behind messages of that
millisecond that are not after the instant, what the fetch from the instant gives. -/
theorem fetch_millis {ms : List Message}
    (h : (fetch service limit project job (.millis (.int i.millis)) s).result = .ok ms) :
    ∃ extra rest, ms = extra ++ rest
      ∧ (fetch service limit project job (.instant i) s).result = .ok rest
      ∧ ∀ m ∈ extra, m.SaidWithin i := by
  refine ⟨ms.filter fun m => m.isUpTo i, ms.filter fun m => !m.isUpTo i, ?_, ?_, ?_⟩
  · exact fetch_split rfl h i
  · rw [result_fetch_instant, h]
    rfl
  · intro m hm
    obtain ⟨hmem, hupTo⟩ := List.mem_filter.mp hm
    refine Message.saidWithin_of_isUpTo ?_ hupTo
    -- whatever is fetched is after the checkpoint
    rw [fetch_eq (a := .ofMillis i.millis) rfl] at h
    obtain ⟨batch, hbatch, rfl⟩ := ok_of_map h
    obtain ⟨pages, -, -, -, hsorted⟩ := fetchSince_spec hbatch
    exact (List.mem_filter.mp ((hsorted.mem_iff m).mp hmem)).2

/-- One of the two fetches fails exactly when the other does, and in the same way. -/
theorem fetch_millis_error_iff (e : Failure) :
    (fetch service limit project job (.instant i) s).result = .error e
      ↔ (fetch service limit project job (.millis (.int i.millis)) s).result = .error e := by
  rw [result_fetch_instant]
  constructor
  · exact error_of_map
  · intro h
    rw [h]
    rfl

end Fetch

/-! ## §3. Checkpoints in milliseconds. -/

namespace Instant

/-- **A checkpoint in milliseconds skips nothing.**  Every count of milliseconds, of any size and
sign, is an instant, which has that count and is compared with other instants by it.  So the
fetch from the millisecond of an instant makes the same calls as the fetch from the instant and
fails when that does; when they go well its list ends with the list of the other, and the
messages in front of that lie in the millisecond of the instant and not after it.  From a script
without failures, whose timestamps can all be decoded, it goes well. -/
theorem ofMillis_skips_none (i : Instant) (m : Int) :
    make (m / 1000) (m % 1000 * 1000000) = .ok (ofMillis m)
      ∧ (Checkpoint.millis (.int m)).toInstant = .ok (ofMillis m)
      ∧ (ofMillis m).millis = m
      ∧ (ofMillis m ≤ i ↔ m ≤ i.millis)
      ∧ (∀ {σ : Type} (service : Service σ) (limit : Nat) (project job : Value) (s : σ),
          (fetch service limit project job (.instant i) s).state
              = (fetch service limit project job (.millis (.int i.millis)) s).state
            ∧ (∀ e, (fetch service limit project job (.instant i) s).result = .error e
                ↔ (fetch service limit project job (.millis (.int i.millis)) s).result = .error e)
            ∧ ∀ ms, (fetch service limit project job (.millis (.int i.millis)) s).result = .ok ms →
                ∃ extra rest, ms = extra ++ rest
                  ∧ (fetch service limit project job (.instant i) s).result = .ok rest
                  ∧ ∀ x ∈ extra, x.SaidWithin i)
      ∧ ∀ (project job : Value) (script : List Response) (calls : List Call) (limit : Nat),
          (∀ r ∈ script, r.Readable) → script.length < limit →
            ∃ ms, (fetch Script.service limit project job (.millis (.int i.millis))
              ⟨script, calls⟩).result = .ok ms := by
  refine ⟨make_ofMillis m, rfl, millis_ofMillis m, ofMillis_le_iff m i, ?_, ?_⟩
  · intro σ service limit project job s
    refine ⟨?_, fetch_millis_error_iff service limit project job i s, ?_⟩
    · exact fetch_later_state rfl rfl (ofMillis_millis_le i)
    · intro ms h
      exact fetch_millis service limit project job i s h
  · intro project job script calls limit hscript hlimit
    exact Script.fetch_ok project job calls hscript rfl hlimit

/-- Half a millisecond before the start of 1970. -/
def halfBefore : Instant := ⟨-1, 999500000, by decide⟩

end Instant

/-- A message of the last second before 1970. -/
def Message.lastSecond (nanos : Nat) : Message where
  time := .object [("seconds", .int (-1)), ("nanos", .int nanos)]

/-- Messages of the last millisecond before 1970: before that half, at it and after it. -/
def Script.lastMillisecond : List Response :=
  [.ok (some ⟨some [.lastSecond 999900000, .lastSecond 999200000], .text "t"⟩),
    .ok (some ⟨some [.lastSecond 999500000], .null⟩)]

theorem Script.readable_lastMillisecond : ∀ r ∈ Script.lastMillisecond, r.Readable := by
  have hlate : (Message.lastSecond 999900000).Readable := ⟨_, rfl⟩
  have hearly : (Message.lastSecond 999200000).Readable := ⟨_, rfl⟩
  have hhalf : (Message.lastSecond 999500000).Readable := ⟨_, rfl⟩
  unfold lastMillisecond
  rw [List.forall_mem_cons, List.forall_mem_singleton, Response.readable_some_iff,
    Response.readable_some_iff]
  constructor
  · exact List.forall_mem_cons.mpr ⟨hlate, List.forall_mem_singleton.mpr hearly⟩
  · exact List.forall_mem_singleton.mpr hhalf

/-- From milliseconds that are negative: the last one before 1970. -/
theorem Instant.ofMillis_skips_none_beforeEpoch :
    Instant.halfBefore.millis = -1
      ∧ (∀ r ∈ Script.lastMillisecond, r.Readable) ∧ Script.lastMillisecond.length < 3
      ∧ ∃ ms extra rest,
        (fetch Script.service 3 (.text "p") (.text "j") (.millis (.int (-1)))
            ⟨Script.lastMillisecond, []⟩).result = .ok ms
          ∧ ms = extra ++ rest
          ∧ (fetch Script.service 3 (.text "p") (.text "j") (.instant Instant.halfBefore)
            ⟨Script.lastMillisecond, []⟩).result = .ok rest
          ∧ ∀ m ∈ extra, m.SaidWithin Instant.halfBefore := by
  have hcount : Instant.halfBefore.millis = -1 := by decide
  have hread := Script.readable_lastMillisecond
  have hlimit : Script.lastMillisecond.length < 3 := by decide
  obtain ⟨-, -, -, -, hboth, hgood⟩ := Instant.ofMillis_skips_none Instant.halfBefore (-1)
  obtain ⟨ms, hms⟩ := hgood (.text "p") (.text "j") Script.lastMillisecond [] 3 hread hlimit
  obtain ⟨-, -, hsuffix⟩ :=
    hboth Script.service 3 (.text "p") (.text "j") ⟨Script.lastMillisecond, []⟩
  obtain ⟨extra, rest, hcut, hrest, hextra⟩ := hsuffix ms hms
  rw [hcount] at hms
  exact ⟨hcount, hread, hlimit, ms, extra, rest, hms, hcut, hrest, hextra⟩

end JobWatch
