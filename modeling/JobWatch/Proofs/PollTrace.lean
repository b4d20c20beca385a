/-
  JobWatch.Proofs.PollTrace
  ─────────────────────────
  **WHAT CAN BE SEEN OF A POLL FROM OUTSIDE.**

  A poll asks its service for pages and hands one batch to its agent.  To say
  in which order it does so, service and agent are made to note what happens
  to them in one list; the noting changes nothing else:

      collect_noted      — the calls of a walk are seen, nothing else changes
      readable_of_mem_questions / unreadable_of_failure
                         — a walk goes well exactly when its calls did
      pollWith_delivers  — a poll either hands one batch over, after the last
                           call and with every call good, or hands none over
      isGreatest_checkpointAfter
                         — the checkpoint after a batch is the latest instant

  A bound on the calls may cut a walk short.  `Overruns` says so, and a
  script never lets it happen to a walk that may make one call more than the
  script has responses.
-/
import Mathlib.Order.Bounds.Basic
import JobWatch.Listing.Poll
import JobWatch.Proofs.PageWalk

namespace JobWatch

/-! ## §1. Noting. -/

/-- A call and what the service said to it. -/
abbrev Question := Call × Response

/-- Something that a poll does to the world outside. -/
inductive Event where
  /-- The service was called. -/
  | asked (question : Question)
  /-- The agent was given a batch, and failed if there is a failure. -/
  | handed (batch : List Message) (failure : Option Failure)

/-- A batch that is noted behind calls is noted behind them, not among them. -/
theorem Event.handed_mem_append_iff {asked : List Question} {rest : List Event}
    {batch : List Message} {failure : Option Failure} :
    Event.handed batch failure ∈ asked.map Event.asked ++ rest
      ↔ Event.handed batch failure ∈ rest := by
  rw [List.mem_append]
  constructor
  · rintro (h | h)
    · obtain ⟨q, -, hq⟩ := List.mem_map.mp h
      exact absurd hq (by simp)
    · exact h
  · exact Or.inr

/-- The service, noting its calls. -/
def Service.noted {σ : Type} (service : Service σ) : Service (σ × List Event) := fun w call =>
  let answer := service w.1 call
  { response := answer.response
    state := (answer.state, w.2 ++ [.asked (call, answer.response)])
    log := answer.log }

/-- The agent, noting its batches and its failures. -/
def Agent.noted {σ ρ : Type} (agent : Agent σ ρ) : Agent (σ × List Event) ρ := fun batch w =>
  let (handling, world) := agent batch w.1
  (handling, (world, w.2 ++ [.handed batch handling.failure]))

/-- A response that does not fail and has no message whose timestamp does. -/
def Response.Readable (r : Response) : Prop :=
  ∃ page : Option Page, r = .ok page ∧ ∀ p ∈ page, ∀ m ∈ p.content, m.Readable

theorem Response.not_readable_error (e : Failure) : ¬ Response.Readable (.error e) := by
  rintro ⟨page, h, -⟩
  exact absurd h (by simp)

theorem Response.readable_some_iff (p : Page) :
    Response.Readable (.ok (some p)) ↔ ∀ m ∈ p.content, m.Readable := by
  constructor
  · rintro ⟨page, h, hread⟩
    obtain rfl := Except.ok.inj h
    exact hread p rfl
  · intro hread
    refine ⟨some p, rfl, ?_⟩
    intro q hq
    obtain rfl := Option.some.inj hq
    exact hread

/-! ## §2. One step. -/

section Step

variable {σ : Type} (service : Service σ) (project job : Value)

/-- What one step asks: nothing at the end, else for one page. -/
def Cursor.asks : Cursor → σ → List Question
  | .ended, _ => []
  | .before token, s => [(⟨project, job, token⟩, (service s ⟨project, job, token⟩).response)]

theorem advance_noted (c : Cursor) (s : σ) (es : List Event) :
    c.advance service.noted project job (s, es)
      = { page := (c.advance service project job s).page
          cursor := (c.advance service project job s).cursor
          state := ((c.advance service project job s).state,
            es ++ (c.asks service project job s).map Event.asked)
          log := (c.advance service project job s).log } := by
  cases c with
  | ended =>
    show _ = Step.mk _ _ (s, es ++ []) _
    rw [List.append_nil]
    rfl
  | before token => rfl

variable {service project job} {c : Cursor} {s : σ}

/-- A step fails by a failing response. -/
theorem asks_of_failure {e : Failure} (h : (c.advance service project job s).page = .error e) :
    ∃ q ∈ c.asks service project job s, ¬ q.2.Readable := by
  cases c with
  | ended => exact absurd h (by simp [Cursor.advance])
  | before token =>
    refine ⟨_, List.mem_singleton_self _, ?_⟩
    rw [Cursor.settle_eq_error_iff.mp h]
    exact Response.not_readable_error e

/-- A step that brings nothing got no page or an empty one. -/
theorem asks_of_stop (h : (c.advance service project job s).page = .ok none) :
    ∀ q ∈ c.asks service project job s, q.2.Readable := by
  cases c with
  | ended => exact List.forall_mem_nil _
  | before token =>
    intro q hq
    rw [List.mem_singleton.mp hq]
    rcases Cursor.settle_eq_none_iff.mp h with hr | ⟨p, hr, hp⟩
    · exact ⟨none, hr, fun _ hp => absurd hp (by simp)⟩
    · show Response.Readable (service s ⟨project, job, token⟩).response
      rw [hr, Response.readable_some_iff, hp]
      exact List.forall_mem_nil _

/-- A step that brings a page asked for that page alone. -/
theorem asks_of_page {p : Page} (h : (c.advance service project job s).page = .ok (some p)) :
    ∃ call, c.asks service project job s = [(call, .ok (some p))] := by
  cases c with
  | ended => exact absurd h (by simp [Cursor.advance])
  | before token =>
    refine ⟨⟨project, job, token⟩, ?_⟩
    rw [← (Cursor.settle_eq_page_iff.mp h).1]
    rfl

end Step

/-! ## §3. A whole walk. -/

section Walk

variable {σ : Type} (service : Service σ) (project job : Value)

/-- The walk from the cursor has brought `limit` pages and would go on. -/
inductive Overruns : Nat → Cursor → σ → Prop
  | spent {token : Value} {s : σ} : Overruns 0 (.before token) s
  | page {limit : Nat} {c : Cursor} {s : σ} {p : Page}
      (h : (c.advance service project job s).page = .ok (some p))
      (rest : Overruns limit (c.advance service project job s).cursor
        (c.advance service project job s).state) :
      Overruns (limit + 1) c s

/-- What a walk asks, as far as it gets. -/
def questions (since : Instant) : Nat → Cursor → σ → List Question
  | 0, _, _ => []
  | limit + 1, c, s =>
    let step := c.advance service project job s
    c.asks service project job s ++
      match step.page with
      | .ok (some p) =>
        match newer since p.content with
        | .ok _ => questions since limit step.cursor step.state
        | .error _ => []
      | _ => []

/-- Noting shows the questions, and changes nothing else. -/
theorem collect_noted (since : Instant) (limit : Nat) (c : Cursor) (s : σ) (es : List Event) :
    collect service.noted project job since limit c (s, es)
      = { result := (collect service project job since limit c s).result
          state := ((collect service project job since limit c s).state,
            es ++ (questions service project job since limit c s).map Event.asked)
          log := (collect service project job since limit c s).log } := by
  -- the events so far are carried along, so the induction is over any of them
  induction limit generalizing c s es with
  | zero =>
    rw [questions, List.map_nil, List.append_nil]
    cases c <;> rfl
  | succ limit ih =>
    have hnoted := advance_noted service project job c s es
    have hpage : (c.advance service.noted project job (s, es)).page
        = (c.advance service project job s).page := by rw [hnoted]
    rw [questions]
    rcases advance_cases service project job since c s with
      ⟨e, hstep⟩ | hstep | ⟨p, e, hstep, hnew⟩ | ⟨p, found, hstep, hnew⟩
    · rw [collect_of_failure (hpage.trans hstep), collect_of_failure hstep, hnoted]
      simp only [hstep, List.append_nil]
    · rw [collect_of_stop (hpage.trans hstep), collect_of_stop hstep, hnoted]
      simp only [hstep, List.append_nil]
    · rw [collect_of_unreadable (hpage.trans hstep) hnew, collect_of_unreadable hstep hnew, hnoted]
      simp only [hstep, hnew, List.append_nil]
    · rw [collect_of_page (hpage.trans hstep) hnew, collect_of_page hstep hnew, hnoted]
      simp only [hstep, hnew, ih, List.map_append, List.append_assoc]

variable {service project job}

/-- **A walk that comes to its end has asked only what was answered well.** -/
theorem readable_of_mem_questions {since : Instant} {limit : Nat} {c : Cursor} {s : σ}
    {haul : Haul} (h : (collect service project job since limit c s).result = .ok haul) :
    ∀ q ∈ questions service project job since limit c s, q.2.Readable := by
  induction limit generalizing c s haul with
  | zero => exact List.forall_mem_nil _
  | succ limit ih =>
    rw [questions]
    rcases advance_cases service project job since c s with
      ⟨e, hstep⟩ | hstep | ⟨p, e, hstep, hnew⟩ | ⟨p, found, hstep, hnew⟩
    · rw [collect_of_failure hstep] at h
      exact absurd h (by simp)
    · simp only [hstep, List.append_nil]
      exact asks_of_stop hstep
    · rw [collect_of_unreadable hstep hnew] at h
      exact absurd h (by simp)
    · rw [collect_of_page hstep hnew] at h
      obtain ⟨rest, hrest, -⟩ := ok_of_map h
      obtain ⟨call, hasks⟩ := asks_of_page hstep
      simp only [hstep, hnew, hasks]
      intro q hq
      rcases List.mem_cons.mp hq with rfl | hq
      · exact (Response.readable_some_iff p).mpr ((newer_eq_ok_iff since _ _).mp hnew).1
      · exact ih hrest q hq

/-- **A walk that fails was answered badly**, unless its calls were spent. -/
theorem unreadable_of_failure {since : Instant} {limit : Nat} {c : Cursor} {s : σ} {e : Failure}
    (h : (collect service project job since limit c s).result = .error e) :
    (∃ q ∈ questions service project job since limit c s, ¬ q.2.Readable)
      ∨ Overruns service project job limit c s := by
  induction limit generalizing c s with
  | zero =>
    cases c with
    | before token => exact Or.inr Overruns.spent
    | ended => exact absurd h (by simp [collect])
  | succ limit ih =>
    rw [questions]
    rcases advance_cases service project job since c s with
      ⟨e', hstep⟩ | hstep | ⟨p, e', hstep, hnew⟩ | ⟨p, found, hstep, hnew⟩
    · simp only [hstep, List.append_nil]
      exact Or.inl (asks_of_failure hstep)
    · rw [collect_of_stop hstep] at h
      exact absurd h (by simp)
    -- the page came, but one of its timestamps is an error
    · obtain ⟨call, hasks⟩ := asks_of_page hstep
      simp only [hstep, hnew, hasks, List.append_nil]
      refine Or.inl ⟨_, List.mem_singleton_self _, ?_⟩
      rw [Response.readable_some_iff]
      intro hread
      rw [(newer_eq_ok_iff since p.content _).mpr ⟨hread, rfl⟩] at hnew
      exact absurd hnew (by simp)
    · rw [collect_of_page hstep hnew] at h
      simp only [hstep, hnew]
      rcases ih (error_of_map h) with ⟨q, hq, hbad⟩ | hover
      · exact Or.inl ⟨q, List.mem_append_right _ hq, hbad⟩
      · exact Or.inr (Overruns.page hstep hover)

end Walk

/-! ## §4. A whole poll. -/

section Poll

variable {σ ρ : Type} (service : Service σ) (project job : Value)

theorem fetchSince_noted (start : Instant) (limit : Nat) (s : σ) :
    fetchSince service.noted limit project job start (s, [])
      = { result := (fetchSince service limit project job start s).result
          state := ((fetchSince service limit project job start s).state,
            (questions service project job start limit .start s).map Event.asked)
          log := (fetchSince service limit project job start s).log } := by
  unfold fetchSince
  rw [collect_noted, List.nil_append]
  cases hcollect : (collect service project job start limit .start s).result with
  | error e => simp only [hcollect]
  | ok haul => simp only [hcollect]

/-- What a poll that hands a batch over goes through: it has a point in time to start from, asks
its questions, walks pages, which leaves the service in a state, and finds a batch, each message
beside its timestamp. -/
structure Delivery (σ : Type) where
  start : Instant
  asked : List Question
  pages : List Page
  walked : σ
  batch : List Timed

namespace Delivery

/-- The batch as it is handed over. -/
def messages (d : Delivery σ) : List Message := d.batch.map Prod.snd

/-- `d.Describes …`: the poll of an agent from a checkpoint went as `d` says. -/
structure Describes (d : Delivery σ) (service : Service σ) (project job : Value)
    (since : Checkpoint) (agent : Agent σ ρ) (s : σ) (polled : Polled (σ × List Event) ρ) :
    Prop where
  start_eq : since.toInstant = .ok d.start
  asked_readable : ∀ q ∈ d.asked, q.2.Readable
  walk : Walk service project job .start s d.pages d.walked
  pages_readable : ∀ m ∈ messagesOn d.pages, m.Readable
  faithful : ∀ x ∈ d.batch, x.Faithful
  /-- The batch is the stable sort of the new messages. -/
  sorted : StablySorted Message.rank ((messagesOn d.pages).filter (Message.isAfter d.start))
    d.messages
  /-- The calls come first, then the batch is handed over, once. -/
  events : polled.state.2 = d.asked.map Event.asked
    ++ [.handed d.messages (agent d.messages d.walked).1.failure]
  /-- The poll fails when the agent does, and else gives the checkpoint after the batch. -/
  result : polled.result = match (agent d.messages d.walked).1.failure with
    | some e => .error e
    | none => .ok (checkpointAfter d.start d.batch)

end Delivery

/-- What a poll that hands nothing over goes through: it was given no point in time, or a call
was not good, or the calls were spent. -/
structure Misses (service : Service σ) (limit : Nat) (project job : Value) (since : Checkpoint)
    (s : σ) (asked : List Question) (polled : Polled (σ × List Event) ρ) : Prop where
  events : polled.state.2 = asked.map Event.asked
  fails : ∃ e, polled.result = .error e
  reason : (∃ e, since.toInstant = .error e) ∨ (∃ q ∈ asked, ¬ q.2.Readable)
    ∨ Overruns service project job limit .start s

/-- **A poll hands one batch over, after its last call, or none.** -/
theorem pollWith_delivers (limit : Nat) (since : Checkpoint) (agent : Agent σ ρ) (s : σ) :
    (∃ d : Delivery σ, d.Describes service project job since agent s
        (pollWith service.noted limit project job since agent.noted (s, [])))
      ∨ ∃ asked, Misses service limit project job since s asked
        (pollWith service.noted limit project job since agent.noted (s, [])) := by
  unfold pollWith
  cases hstart : since.toInstant with
  | error e => exact Or.inr ⟨[], rfl, ⟨_, rfl⟩, Or.inl ⟨e, hstart⟩⟩
  | ok start =>
    have hnoted := fetchSince_noted service project job start limit s
    show (∃ d : Delivery σ, d.Describes service project job since agent s
        (pollSinceWith service.noted limit project job start agent.noted (s, [])))
      ∨ ∃ asked, Misses service limit project job since s asked
        (pollSinceWith service.noted limit project job start agent.noted (s, []))
    unfold pollSinceWith
    rw [hnoted]
    have hresult := fetchSince_result service project job start limit s
    cases hfetch : (fetchSince service limit project job start s).result with
    | error e =>
      rw [hfetch] at hresult
      have hbad := unreadable_of_failure (error_of_map hresult.symm)
      exact Or.inr ⟨_, rfl, ⟨e, rfl⟩, Or.inr hbad⟩
    | ok batch =>
      rw [hfetch] at hresult
      obtain ⟨haul, hcollect, -⟩ := ok_of_map hresult.symm
      obtain ⟨pages, hwalk, hread, hfaithful, hsorted⟩ := fetchSince_spec hfetch
      exact Or.inl ⟨⟨start, questions service project job start limit .start s, pages,
          (fetchSince service limit project job start s).state, batch⟩,
        hstart, readable_of_mem_questions hcollect, hwalk, hread, hfaithful, hsorted, rfl, rfl⟩

/-- **Noting changes nothing** that comes of a poll. -/
theorem pollWith_noted (limit : Nat) (since : Checkpoint) (agent : Agent σ ρ) (s : σ) :
    (pollWith service.noted limit project job since agent.noted (s, [])).result
        = (pollWith service limit project job since agent s).result
      ∧ (pollWith service.noted limit project job since agent.noted (s, [])).handled
        = (pollWith service limit project job since agent s).handled
      ∧ (pollWith service.noted limit project job since agent.noted (s, [])).log
        = (pollWith service limit project job since agent s).log
      ∧ (pollWith service.noted limit project job since agent.noted (s, [])).state.1
        = (pollWith service limit project job since agent s).state := by
  unfold pollWith
  cases since.toInstant with
  | error e => exact ⟨rfl, rfl, rfl, rfl⟩
  | ok start =>
    simp only [pollSinceWith, fetchSince_noted]
    cases (fetchSince service limit project job start s).result with
    | error e => exact ⟨rfl, rfl, rfl, rfl⟩
    | ok batch => exact ⟨rfl, rfl, rfl, rfl⟩

end Poll

/-! ## §5. The checkpoint after a batch. -/

/-- The instants at which some of the messages were said. -/
def timesOf (ms : List Message) : Set Instant := {t | ∃ m ∈ ms, m.timestamp = .ok (some t)}

section Checkpoint

variable {start : Instant} {items : List Message} {batch : List Timed}

/-- No message of a batch is later than the last one. -/
theorem le_of_getLast? (hfaithful : ∀ x ∈ batch, x.Faithful)
    (hsorted : StablySorted Message.rank items (batch.map Prod.snd)) {last : Timed}
    (hlast : batch.getLast? = some last) {m : Message} (hm : m ∈ batch.map Prod.snd) {t : Instant}
    (ht : m.timestamp = .ok (some t)) : t ≤ last.1 := by
  obtain ⟨front, rfl⟩ := List.getLast?_eq_some_iff.mp hlast
  have hmem : last ∈ front ++ [last] := List.mem_append_right front (List.mem_singleton_self last)
  have hrank : last.2.rank = (last.1 : WithBot Instant) :=
    (Message.rank_eq_coe_iff _ _).mpr (hfaithful last hmem)
  have hle : m.rank ≤ last.2.rank := by
    have hascending := hsorted.ascending
    rw [List.map_append, List.map_singleton] at hascending hm
    rcases List.mem_append.mp hm with hm | hm
    · exact (List.pairwise_append.mp hascending).2.2 m hm last.2 (List.mem_singleton_self _)
    · rw [List.mem_singleton.mp hm]
  rw [hrank, (Message.rank_eq_coe_iff m t).mpr ht] at hle
  exact WithBot.coe_le_coe.mp hle

/-- **The checkpoint after a batch** is the latest of the checkpoint before and the instants of
the batch. -/
theorem isGreatest_checkpointAfter (hfaithful : ∀ x ∈ batch, x.Faithful)
    (hsorted : StablySorted Message.rank (items.filter (Message.isAfter start))
      (batch.map Prod.snd)) :
    IsGreatest (insert start (timesOf (batch.map Prod.snd))) (checkpointAfter start batch) := by
  unfold checkpointAfter
  cases hlast : batch.getLast? with
  | none =>
    obtain rfl := List.getLast?_eq_none_iff.mp hlast
    refine ⟨Set.mem_insert _ _, ?_⟩
    rintro t (rfl | ⟨m, hm, -⟩)
    · exact le_refl _
    · exact absurd hm List.not_mem_nil
  | some last =>
    have hmem : last ∈ batch := List.mem_of_getLast? hlast
    have hmessage : last.2 ∈ batch.map Prod.snd := List.mem_map_of_mem hmem
    refine ⟨Set.mem_insert_of_mem _ ⟨last.2, hmessage, hfaithful last hmem⟩, ?_⟩
    rintro t (rfl | ⟨m, hm, ht⟩)
    · obtain ⟨t, ht, hlt⟩ := (Message.isAfter_iff _ _).mp
        (List.mem_filter.mp ((hsorted.mem_iff last.2).mp hmessage)).2
      rw [hfaithful last hmem] at ht
      obtain rfl := Option.some.inj (Except.ok.inj ht)
      exact le_of_lt hlt
    · exact le_of_getLast? hfaithful hsorted hlast hm ht

end Checkpoint

namespace Delivery

variable {σ ρ : Type} {service : Service σ} {project job : Value} {since : Checkpoint}
  {agent : Agent σ ρ} {s : σ} {polled : Polled (σ × List Event) ρ} {d : Delivery σ}

/-- Every message of the batch is known to be later than the checkpoint. -/
theorem Describes.isAfter_of_mem (h : d.Describes service project job since agent s polled)
    {m : Message} (hm : m ∈ d.messages) : ∃ t, m.timestamp = .ok (some t) ∧ d.start < t :=
  (Message.isAfter_iff d.start m).mp (List.mem_filter.mp ((h.sorted.mem_iff m).mp hm)).2

theorem Describes.isGreatest (h : d.Describes service project job since agent s polled) :
    IsGreatest (insert d.start (timesOf d.messages)) (checkpointAfter d.start d.batch) :=
  isGreatest_checkpointAfter h.faithful h.sorted

end Delivery

end JobWatch
