/-
  JobWatch.Proofs.PollingSafety
  ─────────────────────────────
  **CHAINED POLLS ARE SAFE AGAINST ANY SERVICE.**

  A watch polls again and again, each time from the checkpoint of the latest
  poll that went well.  The service follows a script of whatever responses,
  failures among them, and every poll has an agent of its own, which may fail
  and may even change the script.  Of any such watch:

      round_sound  — what holds of each poll: one batch at most, handed over
                     after the last call and only if every call was good
      since_le_of_mem_watch
                   — checkpoints never go back
      watch_safe   — batches come in order of time and never overlap
-/
import JobWatch.Proofs.PollTrace
import JobWatch.Proofs.ScriptFetch

namespace JobWatch

/-! ## §1. Watches. -/

/-- One poll of a watch: the checkpoint that it was given, and what came of it, with all that
could be seen. -/
structure Round (ρ : Type) where
  since : Checkpoint
  polled : Polled (Script × List Event) ρ

namespace Event

/-- What was handed over to an agent that did not fail. -/
def delivered : Event → List Message
  | .handed batch none => batch
  | _ => []

end Event

namespace Round

variable {ρ : Type}

/-- What could be seen of the poll, in order. -/
def events (r : Round ρ) : List Event := r.polled.state.2

/-- The checkpoint for the next poll: the new one, or the old one if the poll failed. -/
def next (r : Round ρ) : Checkpoint :=
  match r.polled.result with
  | .ok i => .instant i
  | .error _ => r.since

/-- The messages that the poll handed over to good effect. -/
def delivered (r : Round ρ) : List Message := r.events.flatMap Event.delivered

end Round

/-- Polls once for every agent, each time from the checkpoint that the poll before has left. -/
def watch {ρ : Type} (project job : Value) :
    Checkpoint → Script → List (Agent Script ρ) → List (Round ρ)
  | _, _, [] => []
  | since, s, agent :: agents =>
    let round : Round ρ :=
      ⟨since, pollWith Script.service.noted s.callBound project job since agent.noted (s, [])⟩
    round :: watch project job round.next round.polled.state.1 agents

/-! ## §2. Every poll on its own. -/

/-- A walk that overruns a bound has had as many responses. -/
theorem Overruns.le_pending {project job : Value} {limit : Nat} {c : Cursor} {s : Script}
    (h : Overruns Script.service project job limit c s) : limit ≤ s.pending.length := by
  induction h with
  | spent => exact Nat.zero_le _
  | @page limit c s p hstep _ ih =>
    cases c with
    | ended => exact absurd hstep (by simp [Cursor.advance])
    | before token =>
      obtain ⟨script, calls⟩ := s
      cases script with
      | nil =>
        rw [Script.advance_nil] at hstep
        exact absurd hstep (by simp)
      | cons r script =>
        rw [Script.advance_cons] at ih
        exact Nat.succ_le_succ ih

/-- What is sound about a poll with the calls `asked` and the batch `handed`, if any, beside the
failure of its agent. -/
structure Round.Sound {ρ : Type} (r : Round ρ) (asked : List Question)
    (handed : Option (List Message × Option Failure)) : Prop where
  /-- There are the calls, and behind the last of them one batch at most. -/
  events_eq : r.events = asked.map Event.asked ++ handed.toList.map fun h => .handed h.1 h.2
  /-- A batch is handed over exactly when the checkpoint is a point in time and every call was
  good: it did not fail, and all its timestamps could be decoded. -/
  handed_iff : handed.isSome = true
    ↔ (∃ start, r.since.toInstant = .ok start) ∧ ∀ q ∈ asked, q.2.Readable
  /-- The poll goes well exactly when a batch is handed over and the agent does not fail. -/
  ok_iff : (∃ next, r.polled.result = .ok next) ↔ ∃ batch, handed = some (batch, none)
  /-- A new checkpoint is the latest of the old one and the instants of the batch. -/
  greatest : ∀ next, r.polled.result = .ok next → ∃ start batch,
    r.since.toInstant = .ok start ∧ handed = some (batch, none)
      ∧ IsGreatest (insert start (timesOf batch)) next
  /-- A batch has only messages known to be later than the checkpoint, in order of time. -/
  batch_later : ∀ batch failure, handed = some (batch, failure) →
    batch.Pairwise (fun a b => a.rank ≤ b.rank)
      ∧ ∃ start, r.since.toInstant = .ok start
        ∧ ∀ m ∈ batch, ∃ t, m.timestamp = .ok (some t) ∧ start < t

section Sound

variable {ρ : Type} {project job : Value} {since : Checkpoint} {agent : Agent Script ρ}
  {s : Script} {polled : Polled (Script × List Event) ρ}

theorem sound_of_describes {d : Delivery Script}
    (h : d.Describes Script.service project job since agent s polled) :
    Round.Sound ⟨since, polled⟩ d.asked
      (some (d.messages, (agent d.messages d.walked).1.failure)) where
  events_eq := h.events
  handed_iff := ⟨fun _ => ⟨⟨d.start, h.start_eq⟩, h.asked_readable⟩, fun _ => rfl⟩
  ok_iff := by
    simp only [h.result]
    cases (agent d.messages d.walked).1.failure with
    | none => exact ⟨fun _ => ⟨_, rfl⟩, fun _ => ⟨_, rfl⟩⟩
    | some e => exact ⟨fun ⟨_, hn⟩ => absurd hn (by simp), fun ⟨_, hb⟩ => absurd hb (by simp)⟩
  greatest := by
    intro next hnext
    simp only [h.result] at hnext
    cases hfail : (agent d.messages d.walked).1.failure with
    | some e =>
      rw [hfail] at hnext
      exact absurd hnext (by simp)
    | none =>
      rw [hfail] at hnext
      obtain rfl := Except.ok.inj hnext
      exact ⟨d.start, d.messages, h.start_eq, rfl, h.isGreatest⟩
  batch_later := by
    intro batch failure hbatch
    obtain ⟨rfl, -⟩ := Prod.mk.inj (Option.some.inj hbatch)
    exact ⟨h.sorted.ascending, d.start, h.start_eq, fun m hm => h.isAfter_of_mem hm⟩

theorem sound_of_misses {asked : List Question}
    (h : Misses Script.service s.callBound project job since s asked polled) :
    Round.Sound ⟨since, polled⟩ asked none where
  events_eq := by
    rw [Round.events, h.events]
    exact (List.append_nil _).symm
  handed_iff := by
    refine ⟨fun hs => absurd hs (by simp), ?_⟩
    rintro ⟨⟨start, hstart⟩, hgood⟩
    rcases h.reason with ⟨e, he⟩ | ⟨q, hq, hbad⟩ | hover
    · rw [hstart] at he
      exact absurd he (by simp)
    · exact absurd (hgood q hq) hbad
    -- the bound allows for one call more than the script has responses
    · exact absurd hover.le_pending (Nat.not_succ_le_self _)
  ok_iff := by
    obtain ⟨e, hfails⟩ := h.fails
    simp only [hfails]
    exact ⟨fun ⟨_, hn⟩ => absurd hn (by simp), fun ⟨_, hb⟩ => absurd hb (by simp)⟩
  greatest := by
    obtain ⟨e, hfails⟩ := h.fails
    intro next hnext
    simp only [hfails] at hnext
    exact absurd hnext (by simp)
  batch_later := fun batch failure hbatch => absurd hbatch (by simp)

end Sound

/-- **Every poll is sound**, whatever the script and the agent. -/
theorem round_sound {ρ : Type} (project job : Value) (since : Checkpoint) (s : Script)
    (agent : Agent Script ρ) :
    ∃ asked handed, Round.Sound
      ⟨since, pollWith Script.service.noted s.callBound project job since agent.noted (s, [])⟩
      asked handed := by
  rcases pollWith_delivers Script.service project job s.callBound since agent s with
    ⟨d, h⟩ | ⟨asked, h⟩
  · exact ⟨d.asked, _, sound_of_describes h⟩
  · exact ⟨asked, none, sound_of_misses h⟩

/-- What was delivered can be seen to have been handed over. -/
theorem Round.mem_events_of_mem_delivered {ρ : Type} {r : Round ρ} {m : Message}
    (hm : m ∈ r.delivered) : ∃ batch, Event.handed batch none ∈ r.events ∧ m ∈ batch := by
  obtain ⟨e, he, hm⟩ := List.mem_flatMap.mp hm
  match e, he, hm with
  | .asked q, _, hm => exact absurd hm List.not_mem_nil
  | .handed batch (some e), _, hm => exact absurd hm List.not_mem_nil
  | .handed batch none, he, hm => exact ⟨batch, he, hm⟩

namespace Round.Sound

variable {ρ : Type} {r : Round ρ} {asked : List Question}
  {handed : Option (List Message × Option Failure)}

/-- What was delivered is the batch, if there is one and the agent did not fail. -/
theorem delivered_eq (h : r.Sound asked handed) :
    r.delivered = (handed.toList.map fun h => Event.handed h.1 h.2).flatMap Event.delivered := by
  have hasked : (asked.map Event.asked).flatMap Event.delivered = [] := by
    rw [List.flatMap_eq_nil_iff]
    intro e he
    obtain ⟨q, -, rfl⟩ := List.mem_map.mp he
    rfl
  rw [Round.delivered, h.events_eq, List.flatMap_append, hasked, List.nil_append]

theorem delivered_of_ok {batch : List Message} (h : r.Sound asked (some (batch, none))) :
    r.delivered = batch := by
  rw [h.delivered_eq]
  exact List.append_nil batch

/-- Something was delivered only by a poll that went well. -/
theorem ok_of_mem_delivered (h : r.Sound asked handed) {m : Message} (hm : m ∈ r.delivered) :
    ∃ next, r.polled.result = .ok next := by
  rw [h.ok_iff]
  rw [h.delivered_eq] at hm
  match handed, hm with
  | none, hm => exact absurd hm List.not_mem_nil
  | some (batch, none), _ => exact ⟨batch, rfl⟩
  | some (batch, some e), hm => exact absurd hm List.not_mem_nil

/-- A batch that can be seen to be handed over is the batch of the poll. -/
theorem eq_of_mem_events (h : r.Sound asked handed) {batch : List Message}
    {failure : Option Failure} (hm : Event.handed batch failure ∈ r.events) :
    handed = some (batch, failure) := by
  rw [h.events_eq, Event.handed_mem_append_iff] at hm
  obtain ⟨⟨batch', failure'⟩, hmem, heq⟩ := List.mem_map.mp hm
  obtain ⟨rfl, rfl⟩ := Event.handed.inj heq
  exact Option.mem_toList.mp hmem

/-- A message delivered is no later than the checkpoint after it. -/
theorem delivered_le (h : r.Sound asked handed) {next : Instant}
    (hnext : r.polled.result = .ok next) {m : Message} (hm : m ∈ r.delivered) :
    ∃ t, m.timestamp = .ok (some t) ∧ t ≤ next := by
  obtain ⟨start, batch, -, rfl, hgreatest⟩ := h.greatest next hnext
  obtain ⟨-, start', -, hbatch⟩ := h.batch_later batch none rfl
  rw [h.delivered_of_ok] at hm
  obtain ⟨t, ht, -⟩ := hbatch m hm
  exact ⟨t, ht, hgreatest.2 (Set.mem_insert_of_mem _ ⟨m, hm, ht⟩)⟩

/-- What one poll delivers is in order of time. -/
theorem delivered_ascending (h : r.Sound asked handed) :
    r.delivered.Pairwise fun a b => a.rank ≤ b.rank := by
  rw [h.delivered_eq]
  match handed, h with
  | none, _ => exact List.Pairwise.nil
  | some (batch, some e), _ => exact List.Pairwise.nil
  | some (batch, none), h =>
    show (batch ++ []).Pairwise _
    rw [List.append_nil]
    exact (h.batch_later batch none rfl).1

end Round.Sound

/-! ## §3. A whole watch. -/

section Watch

variable {ρ : Type} (project job : Value)

theorem sound_of_mem_watch (since : Checkpoint) (s : Script) (agents : List (Agent Script ρ)) :
    ∀ r ∈ watch project job since s agents, ∃ asked handed, r.Sound asked handed := by
  induction agents generalizing since s with
  | nil => exact List.forall_mem_nil _
  | cons agent agents ih =>
    intro r hr
    rcases List.mem_cons.mp hr with rfl | hr
    · exact round_sound project job since s agent
    · exact ih _ _ r hr

/-- A checkpoint left is a point in time no earlier than the one given. -/
theorem next_toInstant {r : Round ρ} {asked : List Question}
    {handed : Option (List Message × Option Failure)} (h : r.Sound asked handed) {start : Instant}
    (hstart : r.since.toInstant = .ok start) :
    ∃ start', r.next.toInstant = .ok start' ∧ start ≤ start' := by
  unfold Round.next
  cases hresult : r.polled.result with
  | error e => exact ⟨start, hstart, le_refl start⟩
  | ok next =>
    obtain ⟨start', batch, hstart', -, hgreatest⟩ := h.greatest next hresult
    rw [hstart] at hstart'
    obtain rfl := Except.ok.inj hstart'
    exact ⟨next, rfl, hgreatest.2 (Set.mem_insert _ _)⟩

/-- **Checkpoints never go back.** -/
theorem since_le_of_mem_watch (since : Checkpoint) (s : Script) (agents : List (Agent Script ρ))
    {start : Instant} (hstart : since.toInstant = .ok start) :
    ∀ r ∈ watch project job since s agents,
      ∃ start', r.since.toInstant = .ok start' ∧ start ≤ start' := by
  induction agents generalizing since s start with
  | nil => exact List.forall_mem_nil _
  | cons agent agents ih =>
    intro r hr
    rcases List.mem_cons.mp hr with rfl | hr
    · exact ⟨start, hstart, le_refl start⟩
    · obtain ⟨asked, handed, hsound⟩ := round_sound project job since s agent
      obtain ⟨next, hnext, hle⟩ := next_toInstant hsound hstart
      obtain ⟨start', hstart', hle'⟩ := ih _ _ hnext r hr
      exact ⟨start', hstart', le_trans hle hle'⟩

/-- Each poll is given the checkpoint that the poll before has left. -/
theorem isChain_watch (since : Checkpoint) (s : Script) (agents : List (Agent Script ρ)) :
    (watch project job since s agents).IsChain fun r r' => r'.since = r.next := by
  induction agents generalizing since s with
  | nil => exact List.IsChain.nil
  | cons agent agents ih =>
    cases agents with
    | nil => exact List.IsChain.singleton _
    | cons agent' agents => exact List.IsChain.cons_cons rfl (ih _ _)

/-- A poll begins no earlier than any earlier poll that went well has ended. -/
theorem pairwise_watch (since : Checkpoint) (s : Script) (agents : List (Agent Script ρ)) :
    (watch project job since s agents).Pairwise fun r r' =>
      ∀ next, r.polled.result = .ok next →
        ∃ start', r'.since.toInstant = .ok start' ∧ next ≤ start' := by
  induction agents generalizing since s with
  | nil => exact List.Pairwise.nil
  | cons agent agents ih =>
    refine List.Pairwise.cons ?_ (ih _ _)
    intro r' hr' next hnext
    refine since_le_of_mem_watch project job _ _ agents ?_ r' hr'
    rw [Round.next, hnext]
    rfl

/-- A poll begins where every earlier poll that went well has ended, so its checkpoint and its
messages are later. -/
theorem pairwise_later_watch (since : Checkpoint) (s : Script) (agents : List (Agent Script ρ)) :
    (watch project job since s agents).Pairwise fun r r' =>
      ∀ next, r.polled.result = .ok next →
        (∀ next', r'.polled.result = .ok next' → next ≤ next')
          ∧ ∀ batch failure, Event.handed batch failure ∈ r'.events →
            ∀ m ∈ batch, ∃ t, m.timestamp = .ok (some t) ∧ next < t := by
  refine (pairwise_watch project job since s agents).imp_of_mem ?_
  intro r r' _ hr' hbegin next hnext
  obtain ⟨asked, handed, h⟩ := sound_of_mem_watch project job since s agents r' hr'
  obtain ⟨start', hstart', hle⟩ := hbegin next hnext
  constructor
  · intro next' hnext'
    obtain ⟨start, batch, hstart, -, hgreatest⟩ := h.greatest next' hnext'
    rw [hstart'] at hstart
    obtain rfl := Except.ok.inj hstart
    exact le_trans hle (hgreatest.2 (Set.mem_insert _ _))
  · intro batch failure hhanded m hm
    obtain ⟨-, start, hstart, hbatch⟩ := h.batch_later batch failure (h.eq_of_mem_events hhanded)
    rw [hstart'] at hstart
    obtain rfl := Except.ok.inj hstart
    obtain ⟨t, ht, hlt⟩ := hbatch m hm
    exact ⟨t, ht, lt_of_le_of_lt hle hlt⟩

/-- What one poll delivers is earlier than what any later poll does. -/
theorem pairwise_delivered_watch (since : Checkpoint) (s : Script)
    (agents : List (Agent Script ρ)) :
    (watch project job since s agents).Pairwise fun r r' =>
      ∀ a ∈ r.delivered, ∀ b ∈ r'.delivered, a.rank < b.rank := by
  refine (pairwise_later_watch project job since s agents).imp_of_mem ?_
  intro r r' hr _ hlater a ha b hb
  obtain ⟨asked, handed, h⟩ := sound_of_mem_watch project job since s agents r hr
  -- the checkpoint that the earlier poll has left lies between the two
  obtain ⟨next, hok⟩ := h.ok_of_mem_delivered ha
  obtain ⟨t, ht, hle⟩ := h.delivered_le hok ha
  obtain ⟨batch, hbatch, hb⟩ := Round.mem_events_of_mem_delivered hb
  obtain ⟨t', ht', hlt⟩ := (hlater next hok).2 batch none hbatch b hb
  rw [(Message.rank_eq_coe_iff a t).mpr ht, (Message.rank_eq_coe_iff b t').mpr ht']
  exact WithBot.coe_lt_coe.mpr (lt_of_le_of_lt hle hlt)

/-- **A watch is safe**, whatever responses and agents it meets.  Every poll is sound; each is
given the checkpoint of the latest that went well, so that a failure leaves the checkpoint as it
was; checkpoints never go back, and every message of a batch is later than the checkpoint of
every earlier poll that went well.  Hence what is delivered comes in order of time, and no
message has the same instant as one of another batch. -/
theorem watch_safe (since : Checkpoint) (s : Script) (agents : List (Agent Script ρ)) :
    (∀ r ∈ watch project job since s agents, ∃ asked handed, r.Sound asked handed)
      ∧ (watch project job since s agents).IsChain (fun r r' => r'.since = r.next)
      ∧ (watch project job since s agents).Pairwise (fun r r' =>
          ∀ next, r.polled.result = .ok next →
            (∀ next', r'.polled.result = .ok next' → next ≤ next')
              ∧ ∀ batch failure, Event.handed batch failure ∈ r'.events →
                ∀ m ∈ batch, ∃ t, m.timestamp = .ok (some t) ∧ next < t)
      ∧ ((watch project job since s agents).flatMap Round.delivered).Pairwise
          (fun a b => a.rank ≤ b.rank)
      ∧ ((watch project job since s agents).map Round.delivered).Pairwise
          (fun earlier later => ∀ a ∈ earlier, ∀ b ∈ later, a.rank < b.rank) := by
  have hsound := sound_of_mem_watch project job since s agents
  have hapart := pairwise_delivered_watch project job since s agents
  refine ⟨hsound, isChain_watch project job since s agents,
    pairwise_later_watch project job since s agents, ?_, List.pairwise_map.mpr hapart⟩
  rw [List.pairwise_flatMap]
  constructor
  · intro r hr
    obtain ⟨asked, handed, h⟩ := hsound r hr
    exact h.delivered_ascending
  · refine hapart.imp ?_
    intro r r' h a ha b hb
    exact le_of_lt (h a ha b hb)

end Watch

end JobWatch
