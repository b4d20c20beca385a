/-
  JobWatch.Proofs.LaterCheckpoint
  ───────────────────────────────
  **A LATER CHECKPOINT FETCHES A SUFFIX.**

  Two fetches of one listing, from an earlier and from a later checkpoint,
  walk the same pages.  What the later one keeps is what the earlier one keeps
  and the later checkpoint does not reach; and as the messages come in order
  of time, that is a stretch at the end:

      newer_later         — of the new messages of a page, those after the later
                            checkpoint
      collect_later       — the same of a whole walk, by the same calls
      byInstant_filter    — a bound may be put on messages before or after they
                            are sorted
      fetch_split         — a fetch gives what a bound reaches, then the rest
      fetch_later_result  — two fetches of any service
      fetch_suffix        — two fetches from one script
-/
import JobWatch.Proofs.PollTrace
import JobWatch.Proofs.ScriptFetch

namespace JobWatch

/-! ## §1. Behind a bound. -/

/-- The message is said after the bound. -/
def Timed.isPast (bound : Instant) (x : Timed) : Bool := decide (bound < x.1)

/-- What is later than the later checkpoint is found among what is later than the earlier one. -/
theorem Message.timedAfter?_later {a b : Instant} (hab : a ≤ b) (m : Message) :
    m.timedAfter? b = (m.timedAfter? a).filter (Timed.isPast b) := by
  ext x
  rw [Option.filter_eq_some_iff, timedAfter?_eq_some_iff, timedAfter?_eq_some_iff, Timed.isPast,
    decide_eq_true_eq]
  constructor
  · rintro ⟨hm, hfaithful, hb⟩
    exact ⟨⟨hm, hfaithful, lt_of_le_of_lt hab hb⟩, hb⟩
  · rintro ⟨⟨hm, hfaithful, -⟩, hb⟩
    exact ⟨hm, hfaithful, hb⟩

/-- **Of the new messages of a page**, those after the later checkpoint are what is new there; a
time that cannot be decoded spoils the page for both. -/
theorem newer_later {a b : Instant} (hab : a ≤ b) (ms : List Message) :
    newer b ms = (newer a ms).map (List.filter (Timed.isPast b)) := by
  induction ms with
  | nil => rfl
  | cons m ms ih =>
    cases ht : m.timestamp with
    | error e =>
      rw [newer_cons_of_error b ht, newer_cons_of_error a ht]
      rfl
    | ok t =>
      rw [newer_cons_of_ok b ht, newer_cons_of_ok a ht, ih]
      cases newer a ms with
      | error e => rfl
      | ok found =>
        show Except.ok ((m.timedAfter? b).toList ++ found.filter (Timed.isPast b))
          = Except.ok (((m.timedAfter? a).toList ++ found).filter (Timed.isPast b))
        rw [List.filter_append, Message.timedAfter?_later hab, Option.toList_filter]

section Collect

variable {σ : Type} {service : Service σ} {project job : Value}

/-- **A walk for the later checkpoint** makes the same calls and comes to the same end, and
collects of the same pages what is after that checkpoint. -/
theorem collect_later {a b : Instant} (hab : a ≤ b) (limit : Nat) (c : Cursor) (s : σ) :
    collect service project job b limit c s
      = { collect service project job a limit c s with
          result := (collect service project job a limit c s).result.map fun haul =>
            { messages := haul.messages.filter (Timed.isPast b), pages := haul.pages } } := by
  induction limit generalizing c s with
  | zero => cases c <;> rfl
  | succ limit ih =>
    rcases advance_cases service project job a c s with
      ⟨e, hstep⟩ | hstep | ⟨p, e, hstep, hnew⟩ | ⟨p, found, hstep, hnew⟩
    · rw [collect_of_failure hstep, collect_of_failure hstep]
      rfl
    · rw [collect_of_stop hstep, collect_of_stop hstep]
      rfl
    · have hlater : newer b p.content = .error e := by
        rw [newer_later hab, hnew]
        rfl
      rw [collect_of_unreadable hstep hnew, collect_of_unreadable hstep hlater]
      rfl
    -- the page is the same for both, and so is the rest of the walk
    · have hlater : newer b p.content = .ok (found.filter (Timed.isPast b)) := by
        rw [newer_later hab, hnew]
        rfl
      rw [collect_of_page hstep hnew, collect_of_page hstep hlater]
      simp only [ih]
      cases (collect service project job a limit (c.advance service project job s).cursor
        (c.advance service project job s).state).result with
      | error e => rfl
      | ok haul => simp only [Except.map, List.filter_append]

end Collect

/-! ## §2. The order of time. -/

theorem stablySorted_byInstant_fst (ts : List Timed) :
    StablySorted Prod.fst ts (byInstant ts) :=
  stablySorted_mergeSort
    (fun x y => by
      rw [Instant.before_eq_decide, ← decide_not]
      exact decide_eq_decide.mpr not_lt)
    ts

/-- **A bound may be put on messages before or after they are sorted.** -/
theorem byInstant_filter (bound : Instant) (ts : List Timed) :
    byInstant (ts.filter (Timed.isPast bound)) = (byInstant ts).filter (Timed.isPast bound) :=
  (stablySorted_byInstant_fst _).unique ((stablySorted_byInstant_fst ts).filter _)

/-- Beside its own timestamp, a message is past a bound unless it is known to be no later. -/
theorem Timed.Faithful.isPast_eq {x : Timed} (h : x.Faithful) (bound : Instant) :
    x.isPast bound = !x.2.isUpTo bound := by
  have hreaches : x.2.isUpTo bound = true ↔ x.1 ≤ bound := by
    rw [Message.isUpTo_iff]
    constructor
    · rintro ⟨t, ht, hle⟩
      obtain rfl := Option.some.inj (Except.ok.inj (h.symm.trans ht))
      exact hle
    · exact fun hle => ⟨x.1, h, hle⟩
  rw [Timed.isPast, Bool.eq_iff_iff, Bool.not_eq_true', ← Bool.not_eq_true, hreaches, not_le,
    decide_eq_true_eq]

/-! ## §3. Two fetches. -/

section Fetch

variable {σ : Type} {service : Service σ} {project job : Value} {since later : Checkpoint}
  {a b : Instant} {limit : Nat} {s : σ}

theorem fetch_eq (h : since.toInstant = .ok a) :
    fetch service limit project job since s
      = { fetchSince service limit project job a s with
          result := (fetchSince service limit project job a s).result.map fun ms =>
            ms.map Prod.snd } := by
  unfold fetch
  rw [h]

/-- Beside their timestamps, the messages of a later fetch are those of the earlier one that are
past the later checkpoint. -/
theorem fetchSince_later (hab : a ≤ b) :
    (fetchSince service limit project job b s).result
      = (fetchSince service limit project job a s).result.map (List.filter (Timed.isPast b)) := by
  rw [fetchSince_result, fetchSince_result, collect_later hab]
  cases (collect service project job a limit .start s).result with
  | error e => rfl
  | ok haul =>
    show Except.ok (byInstant (haul.messages.filter (Timed.isPast b))) = Except.ok _
    rw [byInstant_filter]

/-- A good fetch gives the messages up to a bound, and behind them all others. -/
theorem fetch_split (hsince : since.toInstant = .ok a) {ms : List Message}
    (h : (fetch service limit project job since s).result = .ok ms) (bound : Instant) :
    ms = ms.filter (fun m => m.isUpTo bound) ++ ms.filter fun m => !m.isUpTo bound := by
  rw [fetch_eq hsince] at h
  obtain ⟨batch, hbatch, rfl⟩ := ok_of_map h
  obtain ⟨-, -, -, hfaithful, -⟩ := fetchSince_spec hbatch
  rw [fetchSince_result] at hbatch
  obtain ⟨haul, -, rfl⟩ := ok_of_map hbatch
  have hcut := (stablySorted_byInstant_fst haul.messages).eq_append bound
  -- as messages, what is past the bound is what the bound does not reach
  have hpast : ∀ x ∈ byInstant haul.messages, decide (bound < x.1) = !x.2.isUpTo bound :=
    fun x hx => (hfaithful x hx).isPast_eq bound
  have hupTo : ∀ x ∈ byInstant haul.messages, decide (x.1 ≤ bound) = x.2.isUpTo bound := by
    intro x hx
    rw [← Bool.not_not (x.2.isUpTo bound), ← hpast x hx, ← decide_not]
    exact decide_eq_decide.mpr not_lt.symm
  rw [List.filter_congr hpast, List.filter_congr hupTo] at hcut
  rw [List.filter_map, List.filter_map, ← List.map_append]
  exact congrArg (List.map Prod.snd) hcut

/-- **Two fetches of one service.**  The fetch from the later checkpoint fails as the one from the
earlier checkpoint does, or gives the same list without the messages up to the later checkpoint. -/
theorem fetch_later_result (hsince : since.toInstant = .ok a) (hlater : later.toInstant = .ok b)
    (hab : a ≤ b) :
    (fetch service limit project job later s).result
      = (fetch service limit project job since s).result.map
          (List.filter fun m => !m.isUpTo b) := by
  rw [fetch_eq hsince, fetch_eq hlater]
  show (fetchSince service limit project job b s).result.map _
    = ((fetchSince service limit project job a s).result.map _).map _
  rw [fetchSince_later hab]
  cases hbatch : (fetchSince service limit project job a s).result with
  | error e => rfl
  | ok batch =>
    obtain ⟨-, -, -, hfaithful, -⟩ := fetchSince_spec hbatch
    show Except.ok ((batch.filter (Timed.isPast b)).map Prod.snd)
      = Except.ok ((batch.map Prod.snd).filter fun m => !m.isUpTo b)
    rw [List.filter_map]
    congr 2
    exact List.filter_congr fun x hx => (hfaithful x hx).isPast_eq b

/-- Two fetches of one service make the same calls. -/
theorem fetch_later_state (hsince : since.toInstant = .ok a) (hlater : later.toInstant = .ok b)
    (hab : a ≤ b) :
    (fetch service limit project job later s).state
      = (fetch service limit project job since s).state := by
  rw [fetch_eq hsince, fetch_eq hlater]
  show (fetchSince service limit project job b s).state
    = (fetchSince service limit project job a s).state
  rw [fetchSince_state, fetchSince_state, collect_later hab]

/-- If the fetch from the earlier checkpoint goes well, the one from the later checkpoint makes
the same calls and gives the end of the same list, without the messages up to that checkpoint. -/
theorem fetch_later (hsince : since.toInstant = .ok a) (hlater : later.toInstant = .ok b)
    (hab : a ≤ b) {ms : List Message}
    (h : (fetch service limit project job since s).result = .ok ms) :
    (fetch service limit project job later s).result = .ok (ms.filter fun m => !m.isUpTo b)
      ∧ (ms.filter fun m => !m.isUpTo b) <:+ ms
      ∧ (fetch service limit project job later s).state
        = (fetch service limit project job since s).state := by
  refine ⟨?_, ⟨_, (fetch_split hsince h b).symm⟩, fetch_later_state hsince hlater hab⟩
  rw [fetch_later_result hsince hlater hab, h]
  rfl

end Fetch

namespace Script

variable (project job : Value) (calls : List Call)

/-- A script ends with one of its responses, or with nothing. -/
theorem final_mem_or (script : List Response) : final script ∈ script ∨ final script = .ok none := by
  unfold final
  cases hrest : script.dropWhile Response.goesOn with
  | nil => exact Or.inr rfl
  | cons r rest =>
    refine Or.inl ((List.dropWhile_sublist Response.goesOn).mem ?_)
    rw [hrest]
    exact List.mem_cons_self

/-- A script without failures, whose timestamps can all be decoded, is fetched. -/
theorem fetch_ok {script : List Response} (hscript : ∀ r ∈ script, r.Readable)
    {since : Checkpoint} {a : Instant} (hsince : since.toInstant = .ok a) {limit : Nat}
    (hlimit : script.length < limit) :
    ∃ ms, (fetch service limit project job since ⟨script, calls⟩).result = .ok ms := by
  have hread : ∀ p, .ok (some p) ∈ script → ∀ m ∈ p.content, m.Readable := fun p hp =>
    (Response.readable_some_iff p).mp (hscript _ hp)
  have hfinal : ∃ page, final script = .ok page := by
    rcases final_mem_or script with hmem | hnone
    · obtain ⟨page, hpage, -⟩ := hscript _ hmem
      exact ⟨page, hpage⟩
    · exact ⟨none, hnone⟩
  obtain ⟨page, hpage⟩ := hfinal
  rw [fetch_eq hsince, fetchSince_result, Cursor.start,
    collect_script project job .null calls a script hread limit hlimit, hpage]
  exact ⟨_, rfl⟩

/-- **A later checkpoint fetches a suffix.**  From a script without failures, whose timestamps can
all be decoded, and from two checkpoints of any form that are points in time, both fetches go
well.  The one from the later checkpoint gives the end of what the other gives, which is that list
without the messages up to the later checkpoint, and both have made the same calls. -/
theorem fetch_suffix {script : List Response} (hscript : ∀ r ∈ script, r.Readable)
    {since later : Checkpoint} {a b : Instant} (hsince : since.toInstant = .ok a)
    (hlater : later.toInstant = .ok b) (hab : a ≤ b) {limit : Nat}
    (hlimit : script.length < limit) :
    ∃ ms rest,
      (fetch service limit project job since ⟨script, calls⟩).result = .ok ms
        ∧ (fetch service limit project job later ⟨script, calls⟩).result = .ok rest
        ∧ rest <:+ ms
        ∧ rest = ms.filter (fun m => !m.isUpTo b)
        ∧ (fetch service limit project job later ⟨script, calls⟩).state
          = (fetch service limit project job since ⟨script, calls⟩).state := by
  obtain ⟨ms, hms⟩ := fetch_ok project job calls hscript hsince hlimit
  obtain ⟨hrest, hsuffix, hstate⟩ := fetch_later hsince hlater hab hms
  exact ⟨ms, _, hms, hrest, hsuffix, rfl, hstate⟩

/-- Four seconds past the start of 1970, on a clock that runs an hour ahead. -/
def fourPast : ZonedTime where
  time := ⟨⟨1970, 1, 1, by decide⟩, 1, 0, 4, 0⟩
  offset := some ⟨3600000000, by decide⟩

/-- Two pages, with a message of that very second on the last. -/
def fourth : List Response :=
  [.ok (some { messages := some [.saidAt 5, .saidAt 3], next := .text "t" }),
    .ok (some { messages := some [.saidAt 4] })]

theorem readable_fourth : ∀ r ∈ fourth, r.Readable := by
  have hfive : (Message.saidAt 5).Readable := ⟨_, Message.timestamp_saidAt (by decide)⟩
  have hthree : (Message.saidAt 3).Readable := ⟨_, Message.timestamp_saidAt (by decide)⟩
  have hfour : (Message.saidAt 4).Readable := ⟨_, Message.timestamp_saidAt (by decide)⟩
  unfold fourth
  rw [List.forall_mem_cons, List.forall_mem_singleton, Response.readable_some_iff,
    Response.readable_some_iff]
  constructor
  · exact List.forall_mem_cons.mpr ⟨hfive, List.forall_mem_singleton.mpr hthree⟩
  · exact List.forall_mem_singleton.mpr hfour

/-- From milliseconds and from a local time: the later fetch gives the end of what the earlier
one gives, without the message of that second. -/
theorem fetch_suffix_fourth :
    (Checkpoint.zoned fourPast).toInstant = .ok ⟨4, 0, by decide⟩
      ∧ ∃ ms rest,
        (fetch service 3 (.text "p") (.text "j") .start ⟨fourth, []⟩).result = .ok ms
          ∧ (fetch service 3 (.text "p") (.text "j") (.zoned fourPast) ⟨fourth, []⟩).result
            = .ok rest
          ∧ rest <:+ ms
          ∧ rest = ms.filter fun m => !m.isUpTo ⟨4, 0, by decide⟩ := by
  have hsince : Checkpoint.start.toInstant = .ok Instant.epoch := by rfl
  have hlater : (Checkpoint.zoned fourPast).toInstant = .ok ⟨4, 0, by decide⟩ := by rfl
  obtain ⟨ms, rest, hms, hrest, hsuffix, hfilter, -⟩ :=
    fetch_suffix (.text "p") (.text "j") [] readable_fourth hsince hlater (by decide)
      (show fourth.length < 3 by decide)
  exact ⟨hlater, ms, rest, hms, hrest, hsuffix, hfilter⟩

end Script

end JobWatch
