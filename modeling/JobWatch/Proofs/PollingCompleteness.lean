/-
  JobWatch.Proofs.PollingCompleteness
  ───────────────────────────────────
  **POLLING LOSES NOTHING.**

  Polls that all go well, each from the checkpoint of the one before, look at
  a listing that grows meanwhile.  As long as what appears is later than the
  checkpoint or has no known timestamp, the batches put one behind the other
  are what one fetch would give in the end:

      link_of_poll         — what one poll takes from its listing
      TakesFrom.isUpTo     — what a poll has seen stays in every later listing
      TakesFrom.stablySorted
                           — the batches are the stable sort of what is new in
                             the last listing
      polls_complete       — one fetch of that listing gives the same
-/
import JobWatch.Proofs.PollTrace

namespace JobWatch

/-! ## §1. Chains of polls. -/

/-- One poll of a chain: the pages that it walked, the batch that it handed over, and the
checkpoint that it gave back. -/
structure Link where
  pages : List Page
  batch : List Message
  next : Instant

namespace Link

/-- The listing that the poll has seen. -/
def listing (link : Link) : List Message := messagesOn link.pages

/-- From one poll to the next, the listing has kept what was known to be no later than the
checkpoint between them, and nothing of that kind has come to it. -/
def Continues (link link' : Link) : Prop :=
  link'.listing.filter (Message.isUpTo link.next) = link.listing.filter (Message.isUpTo link.next)

/-- `link.Takes start`: from the checkpoint `start`, the poll hands over what is new in its
listing, in order of time, and gives back the latest instant. -/
structure Takes (link : Link) (start : Instant) : Prop where
  readable : ∀ m ∈ link.listing, m.Readable
  sorted : StablySorted Message.rank (link.listing.filter (Message.isAfter start)) link.batch
  greatest : IsGreatest (insert start (timesOf link.batch)) link.next

end Link

section Chain

variable {σ : Type} (service : Service σ) (project job : Value)

/-- `Chain service project job since links`: polls that went well, the first from `since` and each
later one from the checkpoint that the one before has given back.  Each may have an agent of its
own, and the service may be in whatever state. -/
inductive Chain : Checkpoint → List Link → Prop
  | nil {since : Checkpoint} : Chain since []
  /-- A poll that walks `link.pages`, hands `link.batch` over and gives `link.next` back. -/
  | cons {ρ : Type} {since : Checkpoint} {link : Link} {links : List Link} {s' : σ}
      (s : σ) (limit : Nat) (agent : Agent σ ρ)
      (walk : Walk service project job .start s link.pages s')
      (ok : (pollWith service limit project job since agent s).result = .ok link.next)
      (handed : Event.handed link.batch none
        ∈ (pollWith service.noted limit project job since agent.noted (s, [])).state.2)
      (rest : Chain (.instant link.next) links) :
      Chain since (link :: links)

end Chain

/-! ## §2. What one poll takes. -/

section Poll

variable {σ ρ : Type} {service : Service σ} {project job : Value} {since : Checkpoint}
  {link : Link} {s s' : σ} {limit : Nat} {agent : Agent σ ρ}

/-- **What one poll takes** from the listing that it walks. -/
theorem link_of_poll (walk : Walk service project job .start s link.pages s')
    (ok : (pollWith service limit project job since agent s).result = .ok link.next)
    (handed : Event.handed link.batch none
      ∈ (pollWith service.noted limit project job since agent.noted (s, [])).state.2) :
    ∃ start, since.toInstant = .ok start ∧ link.Takes start := by
  have hok : (pollWith service.noted limit project job since agent.noted (s, [])).result
      = .ok link.next := (pollWith_noted service project job limit since agent s).1.trans ok
  rcases pollWith_delivers service project job limit since agent s with ⟨d, h⟩ | ⟨asked, h⟩
  · rw [h.events, Event.handed_mem_append_iff, List.mem_singleton] at handed
    obtain ⟨hbatch, hfailure⟩ := Event.handed.inj handed
    obtain ⟨hpages, -⟩ := walk.unique h.walk
    rw [h.result, ← hfailure] at hok
    have hnext := Except.ok.inj hok
    refine ⟨d.start, h.start_eq, ?_, ?_, ?_⟩
    · rw [Link.listing, hpages]
      exact h.pages_readable
    · rw [Link.listing, hpages, hbatch]
      exact h.sorted
    · rw [hbatch, ← hnext]
      exact h.isGreatest
  · obtain ⟨e, hfails⟩ := h.fails
    rw [hfails] at hok
    exact absurd hok (by simp)

end Poll

namespace Link.Takes

variable {link : Link} {start : Instant}

theorem start_le_next (h : link.Takes start) : start ≤ link.next :=
  h.greatest.2 (Set.mem_insert _ _)

/-- What is new to the poll is no later than the checkpoint that it gives back. -/
theorem isUpTo_of_isAfter (h : link.Takes start) {m : Message} (hm : m ∈ link.listing)
    (hafter : m.isAfter start = true) : m.isUpTo link.next = true := by
  obtain ⟨t, ht, -⟩ := (Message.isAfter_iff start m).mp hafter
  have hbatch : m ∈ link.batch := (h.sorted.mem_iff m).mpr (List.mem_filter.mpr ⟨hm, hafter⟩)
  rw [Message.isUpTo_iff]
  exact ⟨t, ht, h.greatest.2 (Set.mem_insert_of_mem _ ⟨m, hbatch, ht⟩)⟩

/-- What is new to the poll, and what is no later than the checkpoint that it gives back and new
to the poll, are the same. -/
theorem filter_isUpTo (h : link.Takes start) :
    (link.listing.filter (Message.isUpTo link.next)).filter (Message.isAfter start)
      = link.listing.filter (Message.isAfter start) := by
  rw [List.filter_filter]
  refine List.filter_congr fun m hm => ?_
  rw [Bool.and_eq_left_iff_imp]
  exact h.isUpTo_of_isAfter hm

end Link.Takes

/-! ## §3. What lies between two checkpoints. -/

/-- What is no later than a bound is so whatever later bound is asked for first. -/
theorem filter_isUpTo_isUpTo {bound bound' : Instant} (h : bound ≤ bound') (ms : List Message) :
    (ms.filter (Message.isUpTo bound')).filter (Message.isUpTo bound)
      = ms.filter (Message.isUpTo bound) := by
  rw [List.filter_filter]
  refine List.filter_congr fun m _ => ?_
  rw [Bool.and_eq_left_iff_imp, Message.isUpTo_iff, Message.isUpTo_iff]
  rintro ⟨t, ht, hle⟩
  exact ⟨t, ht, le_trans hle h⟩

/-- Of what is new, a part is no later than a bound. -/
theorem filter_isAfter_le (start bound : Instant) (ms : List Message) :
    (ms.filter (Message.isAfter start)).filter
        (fun m => decide (m.rank ≤ (bound : WithBot Instant)))
      = (ms.filter (Message.isUpTo bound)).filter (Message.isAfter start) := by
  rw [List.filter_comm, List.filter_filter, List.filter_filter]
  refine List.filter_congr fun m _ => ?_
  cases hm : m.isAfter start with
  | false => rw [Bool.false_and, Bool.false_and]
  | true =>
    -- what is later than an instant is not below every instant
    have hknown : (⊥ : WithBot Instant) < m.rank :=
      lt_of_le_of_lt bot_le (of_decide_eq_true hm)
    rw [Bool.true_and, Bool.true_and]
    exact decide_eq_decide.mpr ⟨fun hle => ⟨hknown, hle⟩, fun h => h.2⟩

/-- Of what is new, the other part is what is later than the bound. -/
theorem filter_isAfter_gt {start bound : Instant} (h : start ≤ bound) (ms : List Message) :
    (ms.filter (Message.isAfter start)).filter
        (fun m => decide ((bound : WithBot Instant) < m.rank))
      = ms.filter (Message.isAfter bound) := by
  rw [List.filter_filter]
  refine List.filter_congr fun m _ => ?_
  show (m.isAfter bound && m.isAfter start) = m.isAfter bound
  rw [Bool.and_eq_left_iff_imp, Message.isAfter_iff, Message.isAfter_iff]
  rintro ⟨t, ht, hlt⟩
  exact ⟨t, ht, lt_of_le_of_lt h hlt⟩

/-! ## §4. A whole chain. -/

namespace Link

/-- `TakesFrom start links`: each poll takes what is new in its listing, the first from `start`
and each later one from the checkpoint that the one before gives back. -/
inductive TakesFrom : Instant → List Link → Prop
  | nil {start : Instant} : TakesFrom start []
  | cons {start : Instant} {link : Link} {links : List Link} (takes : link.Takes start)
      (rest : TakesFrom link.next links) : TakesFrom start (link :: links)

/-- **What a poll has seen stays**: as far as its checkpoint reaches, the last listing is its
own. -/
theorem TakesFrom.isUpTo {start : Instant} {first last : Link} {links : List Link}
    (h : TakesFrom start (first :: links)) (hcontinues : (first :: links).IsChain Continues)
    (hlast : (first :: links).getLast? = some last) {bound : Instant}
    (hbound : bound ≤ first.next) :
    last.listing.filter (Message.isUpTo bound) = first.listing.filter (Message.isUpTo bound) := by
  induction links generalizing first start with
  | nil =>
    rw [List.getLast?_singleton] at hlast
    rw [Option.some.inj hlast]
  | cons second links ih =>
    cases h with
    | cons _ rest =>
      obtain ⟨hstep, hcontinues⟩ := List.isChain_cons_cons.mp hcontinues
      rw [List.getLast?_cons_cons] at hlast
      have hsecond : first.next ≤ second.next := by
        cases rest with
        | cons takes _ => exact takes.start_le_next
      calc last.listing.filter (Message.isUpTo bound)
          = second.listing.filter (Message.isUpTo bound) :=
            ih rest hcontinues hlast (le_trans hbound hsecond)
        _ = (second.listing.filter (Message.isUpTo first.next)).filter (Message.isUpTo bound) :=
            (filter_isUpTo_isUpTo hbound _).symm
        _ = (first.listing.filter (Message.isUpTo first.next)).filter (Message.isUpTo bound) := by
            rw [hstep]
        _ = first.listing.filter (Message.isUpTo bound) := filter_isUpTo_isUpTo hbound _

/-- **The batches of a chain** are, one behind the other, the stable sort of what is new in the
last listing, and all of that listing can be decoded. -/
theorem TakesFrom.stablySorted {start : Instant} {links : List Link} {last : Link}
    (h : TakesFrom start links) (hcontinues : links.IsChain Continues)
    (hlast : links.getLast? = some last) :
    (∀ m ∈ last.listing, m.Readable)
      ∧ StablySorted Message.rank (last.listing.filter (Message.isAfter start))
          (links.flatMap Link.batch) := by
  induction h with
  | nil => exact absurd hlast (by simp)
  | @cons start first links htakes rest ih =>
    cases links with
    | nil =>
      rw [List.getLast?_singleton] at hlast
      obtain rfl := Option.some.inj hlast
      refine ⟨htakes.readable, ?_⟩
      rw [List.flatMap_singleton]
      exact htakes.sorted
    | cons second links =>
      have hkept := (TakesFrom.cons htakes rest).isUpTo hcontinues hlast (le_refl first.next)
      rw [List.getLast?_cons_cons] at hlast
      obtain ⟨hread, hsorted⟩ := ih (List.isChain_cons_cons.mp hcontinues).2 hlast
      refine ⟨hread, ?_⟩
      rw [List.flatMap_cons]
      -- the first batch reaches up to its checkpoint, the others lie beyond it
      refine StablySorted.append_at (first.next : WithBot Instant) ?_ ?_
      · rw [filter_isAfter_le, hkept, htakes.filter_isUpTo]
        exact htakes.sorted
      · rw [filter_isAfter_gt htakes.start_le_next]
        exact hsorted

end Link

section Chain

variable {σ : Type} {service : Service σ} {project job : Value} {since : Checkpoint}

/-- Polls that went well have taken what is new. -/
theorem takesFrom_of_chain {links : List Link} {start : Instant}
    (h : Chain service project job since links) (hstart : since.toInstant = .ok start) :
    Link.TakesFrom start links := by
  induction h generalizing start with
  | nil => exact Link.TakesFrom.nil
  | cons s limit agent walk ok handed rest ih =>
    obtain ⟨start', hstart', htakes⟩ := link_of_poll walk ok handed
    rw [hstart] at hstart'
    obtain rfl := Except.ok.inj hstart'
    exact Link.TakesFrom.cons htakes (ih rfl)

theorem stablySorted_batches {links : List Link} {last : Link} {start : Instant}
    (h : Chain service project job since links) (hstart : since.toInstant = .ok start)
    (hcontinues : links.IsChain Link.Continues) (hlast : links.getLast? = some last) :
    (∀ m ∈ last.listing, m.Readable)
      ∧ StablySorted Message.rank (last.listing.filter (Message.isAfter start))
          (links.flatMap Link.batch) :=
  (takesFrom_of_chain h hstart).stablySorted hcontinues hlast

/-- **Polling is complete.**  Of a chain of polls over a listing to which only messages later
than the checkpoints, or without a known timestamp, have come, the batches are together what one
fetch from the first checkpoint gives over the last listing, whatever its pages: message for
message and in the same order. -/
theorem polls_complete {links : List Link} {last : Link}
    (h : Chain service project job since links) (hcontinues : links.IsChain Link.Continues)
    (hlast : links.getLast? = some last)
    {τ : Type} {whole : Service τ} {project' job' : Value} {s s' : τ} {pages : List Page}
    (hwhole : Walk whole project' job' .start s pages s')
    (hlisting : messagesOn pages = last.listing) {limit : Nat} (hlimit : pages.length < limit) :
    (fetch whole limit project' job' since s).result = .ok (links.flatMap Link.batch) := by
  obtain ⟨start, hstart⟩ : ∃ start, since.toInstant = .ok start := by
    cases h with
    | nil => exact absurd hlast (by simp)
    | cons _ _ _ walk ok handed _ =>
      obtain ⟨start, hstart, -⟩ := link_of_poll walk ok handed
      exact ⟨start, hstart⟩
  obtain ⟨hread, hbatches⟩ := stablySorted_batches h hstart hcontinues hlast
  rw [← hlisting] at hread hbatches
  obtain ⟨batch, hfetch, hsorted⟩ := fetchSince_of_walk start hwhole hread hlimit
  have hgives : (fetch whole limit project' job' since s).result = .ok (batch.map Prod.snd) := by
    unfold fetch
    simp only [hstart, hfetch]
    rfl
  rw [hgives, hsorted.unique hbatches]

end Chain

/-! ## §5. Two polls. -/

theorem byInstant_singleton (x : Timed) : byInstant [x] = [x] := List.mergeSort_singleton x

/-- A page with one message. -/
def Page.early : Page := { messages := some [.saidAt 1] }

/-- A page with a later message and one without a time, and an empty token for the next page. -/
def Page.late : Page := { messages := some [.saidAt 2, {}], next := .text [] }

/-- A poll that finds one page. -/
def Link.early : Link := ⟨[.early], [.saidAt 1], ⟨1, 0, Instant.epoch.nanos_lt⟩⟩

/-- A poll that finds another page before it. -/
def Link.late : Link := ⟨[.late, .early], [.saidAt 2], ⟨2, 0, Instant.epoch.nanos_lt⟩⟩

theorem chain_early_late :
    Chain Script.service (.text "p") (.text "j") .start [Link.early, Link.late] := by
  refine Chain.cons ⟨[.ok (some .early)], []⟩ 2 Handler.keep.agent
    (Walk.page rfl (Walk.stop rfl)) ?_ ?_ ?_
  · show Except.ok (checkpointAfter _ (byInstant [(Link.early.next, Message.saidAt 1)])) = _
    rw [byInstant_singleton]
    rfl
  · show _ ∈ [Event.asked _, .handed ((byInstant [(Link.early.next, .saidAt 1)]).map Prod.snd) none]
    rw [byInstant_singleton]
    exact List.mem_cons_of_mem _ (List.mem_singleton_self _)
  refine Chain.cons ⟨[.ok (some .late), .ok (some .early)], []⟩ 3 Handler.keep.agent
    (Walk.page rfl (Walk.page rfl (Walk.stop rfl))) ?_ ?_ Chain.nil
  · show Except.ok (checkpointAfter _ (byInstant [(Link.late.next, Message.saidAt 2)])) = _
    rw [byInstant_singleton]
    rfl
  · show _ ∈ [Event.asked _, .asked _,
      .handed ((byInstant [(Link.late.next, .saidAt 2)]).map Prod.snd) none]
    rw [byInstant_singleton]
    exact List.mem_cons_of_mem _ (List.mem_cons_of_mem _ (List.mem_singleton_self _))

/-- Two polls, the second of which meets a new page before the old one, and the fetch of all
three messages from one page. -/
theorem polls_complete_early_late :
    Chain Script.service (.text "p") (.text "j") .start [Link.early, Link.late]
      ∧ [Link.early, Link.late].IsChain Link.Continues
      ∧ (fetch Script.service 2 (.text "p") (.text "j") .start
          ⟨[.ok (some { messages := some [.saidAt 2, {}, .saidAt 1] })], []⟩).result
        = .ok [.saidAt 1, .saidAt 2] := by
  have hcontinues : [Link.early, Link.late].IsChain Link.Continues :=
    List.isChain_cons_cons.mpr ⟨rfl, List.IsChain.singleton _⟩
  exact ⟨chain_early_late, hcontinues,
    polls_complete chain_early_late hcontinues rfl (Walk.page rfl (Walk.stop rfl)) rfl (by decide)⟩

end JobWatch
