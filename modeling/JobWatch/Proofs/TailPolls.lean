/-
  JobWatch.Proofs.TailPolls
  ─────────────────────────
  **THE POLLS OF A TAIL.**

  A tail polls a job again and again and writes each batch as it comes.  The
  batches of its polls, one after the other, are what one fetch of the last
  listing gives, as long as nothing has come to the listing behind a
  checkpoint; and tail writes them as the console writes one batch, to the end
  or until the stream refuses a text:

      takesFrom_linksFrom  — what polls take from listings that can be decoded
      fetch_eq_batches     — it is what one fetch of the last listing gives
      pollSince_of_walk / pollSince_of_breaks
                           — a poll of a whole listing, and one that fails
      follow_of_walk / follow_of_breaks
                           — what a tail makes of each
      follow_of_visits     — any number of polls whose batches can be written
      follow_of_refused    — any number of polls until a text is refused
-/
import JobWatch.Proofs.ListingFailures
import JobWatch.Proofs.PollingCompleteness
import JobWatch.Proofs.SinkNotices
import JobWatch.Tail

namespace JobWatch

/-! ## §1. What polls take from listings. -/

/-- The latest of an instant and the known timestamps of messages. -/
def latest (since : Instant) : List Message → Instant
  | [] => since
  | m :: ms =>
    match m.timestamp with
    | .ok (some t) => max t (latest since ms)
    | _ => latest since ms

theorem isGreatest_latest (since : Instant) (ms : List Message) :
    IsGreatest (insert since (timesOf ms)) (latest since ms) := by
  induction ms with
  | nil =>
    refine ⟨Set.mem_insert _ _, ?_⟩
    rintro t (rfl | ⟨m, hm, -⟩)
    · exact le_refl _
    · exact absurd hm List.not_mem_nil
  | cons m ms ih =>
    have hcons : ∀ t, t ∈ timesOf (m :: ms) ↔ m.timestamp = .ok (some t) ∨ t ∈ timesOf ms := by
      intro t
      show (∃ m' ∈ m :: ms, m'.timestamp = .ok (some t))
        ↔ _ ∨ ∃ m' ∈ ms, m'.timestamp = .ok (some t)
      simp only [List.mem_cons, exists_eq_or_imp]
    unfold latest
    split
    next t ht =>
      have hset : insert since (timesOf (m :: ms)) = insert t (insert since (timesOf ms)) := by
        rw [Set.insert_comm]
        congr 1
        ext t'
        rw [hcons, ht, Set.mem_insert_iff, Except.ok.injEq, Option.some.injEq, eq_comm]
      rw [hset]
      exact ih.insert t
    next hunknown =>
      have hset : timesOf (m :: ms) = timesOf ms := by
        ext t
        rw [hcons]
        exact or_iff_right (hunknown t)
      rw [hset]
      exact ih

/-- What is new in a listing, in order of time. -/
def news (since : Instant) (ms : List Message) : List Message :=
  (ms.filter (Message.isAfter since)).mergeSort fun a b => decide (a.rank ≤ b.rank)

theorem stablySorted_news (since : Instant) (ms : List Message) :
    StablySorted Message.rank (ms.filter (Message.isAfter since)) (news since ms) :=
  stablySorted_mergeSort (fun _ _ => rfl) _

namespace Link

/-- The poll that finds some pages. -/
def ofPages (since : Instant) (pages : List Page) : Link :=
  let batch := news since (messagesOn pages)
  ⟨pages, batch, latest since batch⟩

/-- The polls that find some listings, the first from `since` and each later one from the
checkpoint that the one before gives back. -/
def linksFrom : Instant → List (List Page) → List Link
  | _, [] => []
  | since, pages :: listings =>
    ofPages since pages :: linksFrom (ofPages since pages).next listings

theorem takes_ofPages (since : Instant) {pages : List Page}
    (hread : ∀ m ∈ messagesOn pages, m.Readable) : (ofPages since pages).Takes since where
  readable := hread
  sorted := stablySorted_news since _
  greatest := isGreatest_latest since _

theorem takesFrom_linksFrom (since : Instant) {listings : List (List Page)}
    (hread : ∀ pages ∈ listings, ∀ m ∈ messagesOn pages, m.Readable) :
    TakesFrom since (linksFrom since listings) := by
  -- each poll hands on another checkpoint, so the first one is general
  induction listings generalizing since with
  | nil => exact TakesFrom.nil
  | cons pages listings ih =>
    obtain ⟨hpages, hlistings⟩ := List.forall_mem_cons.mp hread
    exact TakesFrom.cons (takes_ofPages since hpages) (ih _ hlistings)

/-- What is taken can be decoded. -/
theorem Takes.readable_batch {link : Link} {start : Instant} (h : link.Takes start) :
    ∀ m ∈ link.batch, m.Readable := by
  intro m hm
  exact h.readable m (List.mem_filter.mp ((h.sorted.mem_iff m).mp hm)).1

theorem TakesFrom.readable_batches {links : List Link} {start : Instant}
    (h : TakesFrom start links) : ∀ m ∈ links.flatMap Link.batch, m.Readable := by
  induction h with
  | nil => exact List.forall_mem_nil _
  | cons takes rest ih =>
    rw [List.flatMap_cons]
    exact List.forall_mem_append.mpr ⟨takes.readable_batch, ih⟩

end Link

/-- **The batches are what one fetch of the last listing gives**, if nothing has come to a listing
behind a checkpoint. -/
theorem Link.TakesFrom.fetch_eq_batches {links : List Link} (h : Link.TakesFrom .epoch links)
    (hcontinues : links.IsChain Link.Continues) {last : Link} (hlast : links.getLast? = some last)
    {σ : Type} {whole : Service σ} {project job : Value} {s s' : σ} {pages : List Page}
    {limit : Nat} (w : Walk whole project job .start s pages s')
    (hlisting : messagesOn pages = last.listing) (hlimit : pages.length < limit) :
    (fetch whole limit project job .start s).result = .ok (links.flatMap Link.batch) := by
  obtain ⟨hread, hbatches⟩ := h.stablySorted hcontinues hlast
  rw [← hlisting] at hread hbatches
  obtain ⟨batch, hfetch, hsorted⟩ := fetchSince_of_walk .epoch w hread hlimit
  -- both are what is new in the last listing, in order of time
  have hbatch : batch.map Prod.snd = links.flatMap Link.batch := hsorted.unique hbatches
  show (fetchSince whole limit project job .epoch s).result.map _ = _
  rw [hfetch, ← hbatch]
  rfl

/-! ## §2. One poll for the console. -/

section Poll

variable {σ : Type} (service : Service σ) (project job : Value)

/-- `Breaks service project job c s pages e s'`: from the cursor `c`, step after step brings
`pages`, then a step fails with `e`; the service goes from `s` to `s'`. -/
inductive Breaks : Cursor → σ → List Page → Failure → σ → Prop
  /-- A step that fails is the last. -/
  | fail {c : Cursor} {s : σ} {e : Failure}
      (h : (c.advance service project job s).page = .error e) :
      Breaks c s [] e (c.advance service project job s).state
  /-- A step that brings a page is followed by others. -/
  | page {c : Cursor} {s : σ} {p : Page} {pages : List Page} {e : Failure} {s' : σ}
      (h : (c.advance service project job s).page = .ok (some p))
      (rest : Breaks (c.advance service project job s).cursor
        (c.advance service project job s).state pages e s') :
      Breaks c s (p :: pages) e s'

variable {service project job} {pages : List Page} {s s' : σ} {limit : Nat}

theorem collect_of_breaks (since : Instant) {c : Cursor} {e : Failure}
    (b : Breaks service project job c s pages e s')
    (hread : ∀ m ∈ messagesOn pages, m.Readable) (hlimit : pages.length < limit) :
    (collect service project job since limit c s).result = .error e
      ∧ (collect service project job since limit c s).state = s' := by
  -- every page takes one off the limit, and the failing step needs one as well
  induction b generalizing limit with
  | fail hstep =>
    obtain ⟨limit, rfl⟩ : ∃ n, limit = n + 1 := ⟨limit - 1, by omega⟩
    rw [collect_of_failure hstep]
    exact ⟨rfl, rfl⟩
  | @page c s p pages e s' hstep _ ih =>
    obtain ⟨limit, rfl⟩ : ∃ n, limit = n + 1 := ⟨limit - 1, by omega⟩
    rw [messagesOn_cons] at hread
    obtain ⟨hp, hrest⟩ := List.forall_mem_append.mp hread
    rw [List.length_cons] at hlimit
    obtain ⟨hresult, hstate⟩ := ih hrest (show pages.length < limit by omega)
    rw [collect_of_page hstep ((newer_eq_ok_iff since p.content _).mpr ⟨hp, rfl⟩)]
    simp only [hresult]
    exact ⟨rfl, hstate⟩

/-- **A poll of a whole listing** writes what is new in it, gives the next checkpoint if all of
that can be written, and leaves the service where the walk does. -/
theorem pollSince_of_walk (w : Walk service project job .start s pages s')
    (hread : ∀ m ∈ messagesOn pages, m.Readable) (hlimit : pages.length < limit)
    (out : TextStream) (since : Instant) :
    let link := Link.ofPages since pages
    let written := Console.write link.batch out
    let polled := pollSince service limit project job since (Handler.console out) s
    (polled.result = match written.failure with
        | some e => .error e
        | none => .ok link.next)
      ∧ polled.handled = some written ∧ polled.state = s' := by
  intro link written polled
  obtain ⟨batch, hbatch, -⟩ := fetchSince_of_walk since w hread hlimit
  obtain ⟨pages', hwalk, -, hfaithful, hsorted⟩ := fetchSince_spec hbatch
  obtain ⟨rfl, hstate⟩ := w.unique hwalk
  have htakes := Link.takes_ofPages since hread
  -- the fetch is only known to be sorted and faithful, which leaves one batch and one checkpoint
  have hmessages : batch.map Prod.snd = link.batch := hsorted.unique htakes.sorted
  have hnext : checkpointAfter since batch = link.next := by
    have hgreatest := isGreatest_checkpointAfter hfaithful hsorted
    rw [hmessages] at hgreatest
    exact hgreatest.unique htakes.greatest
  have hpolled : polled = { result := match written.failure with
                              | some e => .error e
                              | none => .ok link.next
                            handled := some written
                            state := s'
                            log := (fetchSince service limit project job since s).log } := by
    show pollSinceWith service limit project job since (Handler.console out).agent s = _
    unfold pollSinceWith Handler.agent Handler.console
    simp only [hbatch, hmessages, hnext, ← hstate]
    rfl
  rw [hpolled]
  exact ⟨rfl, rfl, rfl⟩

/-- **A poll that fails** hands nothing over, and leaves the service where the failing step does. -/
theorem pollSince_of_breaks {e : Failure} (b : Breaks service project job .start s pages e s')
    (hread : ∀ m ∈ messagesOn pages, m.Readable) (hlimit : pages.length < limit)
    (out : TextStream) (since : Instant) :
    let polled := pollSince service limit project job since (Handler.console out) s
    polled.result = .error e ∧ polled.handled = none ∧ polled.state = s' := by
  intro polled
  obtain ⟨hresult, hstate⟩ := collect_of_breaks since b hread hlimit
  have hfetch : (fetchSince service limit project job since s).result = .error e := by
    rw [fetchSince_result, hresult]
    rfl
  have hpolled : polled = { result := .error e
                            handled := none
                            state := s'
                            log := (fetchSince service limit project job since s).log } := by
    show pollSinceWith service limit project job since (Handler.console out).agent s = _
    unfold pollSinceWith
    simp only [hfetch, fetchSince_state, hstate]
  rw [hpolled]
  exact ⟨rfl, rfl, rfl⟩

end Poll

/-! ## §3. Any number of polls. -/

section Visits

variable {σ : Type} (service : Service σ) (project job : Value)

/-- `Visits service project job s listings s'`: walks through the whole listing, one after the
other, bring `listings`; the service goes from `s` to `s'`. -/
inductive Visits : σ → List (List Page) → σ → Prop
  | nil {s : σ} : Visits s [] s
  | cons {s s' s'' : σ} {pages : List Page} {listings : List (List Page)}
      (walk : Walk service project job .start s pages s') (rest : Visits s' listings s'') :
      Visits s (pages :: listings) s''

end Visits

namespace Tail

namespace Run

variable {τ : Type}

/-- What a tail does, its log aside. -/
def unlogged (r : Run τ) : Run τ := { r with log := [] }

/-- What a tail does, if it has written and paused before. -/
def behind (r : Run τ) (stdout : Text) (pauses : List Nat) : Run τ :=
  { r with stdout := stdout ++ r.stdout, pauses := pauses ++ r.pauses }

theorem behind_behind (r : Run τ) (stdout stdout' : Text) (pauses pauses' : List Nat) :
    (r.behind stdout pauses).behind stdout' pauses'
      = r.behind (stdout' ++ stdout) (pauses' ++ pauses) := by
  unfold behind
  rw [List.append_assoc, List.append_assoc]

/-- Lines that the stream takes are printed, and the run goes on. -/
theorem after_of_takes {lines : List Text} {out : TextStream}
    (h : ∀ l ∈ lines, out.takes l = true) (s : τ) (r : Run τ) :
    r.after lines out s = r.behind (printed lines).flatten [] := by
  have hprinted : (printed lines).all out.takes = true := by
    refine List.all_eq_true.mpr fun t ht => ?_
    obtain ⟨l, hl, ht⟩ := List.mem_flatMap.mp ht
    rcases List.mem_cons.mp ht with rfl | ht
    · exact h t hl
    · rw [List.mem_singleton.mp ht]
      exact out.takes_of_isAscii (by decide)
  unfold after
  rw [if_pos hprinted]
  rfl

end Run

section Follow

variable {τ : Type} {service : Service τ} {project job : Value} {limit : Nat} {s s' : τ}

/-- At the interruption tail prints its farewell, which every stream takes. -/
theorem follow_zero (out : TextStream) (since : Instant) (s : τ) :
    follow service limit project job out 0 since s
      = { result := .ok (), stdout := "\nStopped\n", state := s } := by
  have hfarewell : ∀ l ∈ farewell, out.takes l = true := by
    intro l hl
    rw [List.mem_singleton.mp hl]
    exact out.takes_of_isAscii (by decide)
  rw [follow, Run.after_of_takes hfarewell]
  rfl

/-- **One poll of a whole listing**, and what comes behind it if its batch can be written. -/
theorem follow_of_walk {pages : List Page} (w : Walk service project job .start s pages s')
    (hread : ∀ m ∈ messagesOn pages, m.Readable) (hlimit : pages.length < limit)
    (out : TextStream) (rounds : Nat) (since : Instant) :
    let link := Link.ofPages since pages
    let written := Console.write link.batch out
    (follow service limit project job out (rounds + 1) since s).unlogged
      = match written.failure with
        | some e => { result := .error (.failure e), stdout := written.text, state := s' }
        | none => (follow service limit project job out rounds link.next s').unlogged.behind
            written.text [pause] := by
  intro link written
  obtain ⟨hresult, hhandled, hstate⟩ := pollSince_of_walk w hread hlimit out since
  -- the log is the only thing that the poll leaves open
  rw [follow]
  simp only [hresult, hhandled, hstate]
  cases written.failure with
  | some e => rfl
  | none => rfl

/-- **A poll that fails** is the last thing that happens. -/
theorem follow_of_breaks {pages : List Page} {e : Failure}
    (b : Breaks service project job .start s pages e s')
    (hread : ∀ m ∈ messagesOn pages, m.Readable) (hlimit : pages.length < limit)
    (out : TextStream) (rounds : Nat) (since : Instant) :
    (follow service limit project job out (rounds + 1) since s).unlogged
      = { result := .error (.failure e), state := s' } := by
  obtain ⟨hresult, hhandled, hstate⟩ := pollSince_of_breaks b hread hlimit out since
  rw [follow]
  simp only [hresult, hhandled, hstate]
  rfl

/-- What the polls of some listings hand over, in order. -/
def batches (since : Instant) (listings : List (List Page)) : List Message :=
  (Link.linksFrom since listings).flatMap Link.batch

theorem batches_cons (since : Instant) (pages : List Page) (listings : List (List Page)) :
    batches since (pages :: listings)
      = (Link.ofPages since pages).batch ++ batches (Link.ofPages since pages).next listings :=
  List.flatMap_cons

variable {listings : List (List Page)} (v : Visits service project job s listings s')
  (hread : ∀ pages ∈ listings, ∀ m ∈ messagesOn pages, m.Readable)
  (hlimit : ∀ pages ∈ listings, pages.length < limit) {out : TextStream} (rounds : Nat)
include v hread hlimit

/-- **Any number of polls whose batches can be written**, and what comes behind them, from whatever
checkpoint that is.  The batches are written as one. -/
theorem follow_of_visits {since : Instant}
    (h : (Console.write (batches since listings) out).failure = none) :
    ∃ next, (follow service limit project job out (rounds + listings.length) since s).unlogged
      = (follow service limit project job out rounds next s').unlogged.behind
          (Console.write (batches since listings) out).text
          (List.replicate listings.length pause) := by
  -- what is written is put behind what was written before, poll after poll
  induction v generalizing since with
  | nil => exact ⟨since, rfl⟩
  | @cons s s' s'' pages listings walk _ ih =>
    obtain ⟨hpages, hreads⟩ := List.forall_mem_cons.mp hread
    obtain ⟨hfits, hlimits⟩ := List.forall_mem_cons.mp hlimit
    have hstep := follow_of_walk walk hpages hfits out (rounds + listings.length) since
    rw [batches_cons, Console.write_append] at h ⊢
    cases hfirst : (Console.write (Link.ofPages since pages).batch out).failure with
    | some e =>
      simp only [hfirst] at h
      exact absurd h (by simp)
    | none =>
      simp only [hfirst] at h hstep ⊢
      obtain ⟨next, hrest⟩ := ih hreads hlimits h
      refine ⟨next, ?_⟩
      rw [List.length_cons, ← Nat.add_assoc, hstep, hrest, Run.behind_behind]
      rfl

/-- **Any number of polls, in one of which a text is refused.**  Tail fails with it behind that
poll, having written what the console writes of the batches as one. -/
theorem follow_of_refused {since : Instant} {e : Failure}
    (h : (Console.write (batches since listings) out).failure = some e) :
    ∃ n state, n < listings.length
      ∧ Visits service project job s (listings.take (n + 1)) state
      ∧ (follow service limit project job out (rounds + listings.length) since s).unlogged
        = { result := .error (.failure e)
            stdout := (Console.write (batches since listings) out).text
            pauses := List.replicate n pause, state } := by
  -- the polls before the one that is refused only add to what is written
  induction v generalizing since with
  | nil => exact absurd h (by simp [batches, Link.linksFrom, Console.write])
  | @cons s s' s'' pages listings walk _ ih =>
    obtain ⟨hpages, hreads⟩ := List.forall_mem_cons.mp hread
    obtain ⟨hfits, hlimits⟩ := List.forall_mem_cons.mp hlimit
    have hstep := follow_of_walk walk hpages hfits out (rounds + listings.length) since
    rw [batches_cons, Console.write_append] at h ⊢
    rw [List.length_cons, ← Nat.add_assoc, hstep]
    cases hfirst : (Console.write (Link.ofPages since pages).batch out).failure with
    | some e' =>
      simp only [hfirst, Option.some.injEq] at h ⊢
      obtain rfl := h
      exact ⟨0, s', Nat.succ_pos _, .cons walk .nil, rfl⟩
    | none =>
      simp only [hfirst] at h ⊢
      obtain ⟨n, state, hn, hvisits, hrest⟩ := ih hreads hlimits h
      rw [hrest]
      exact ⟨n + 1, state, Nat.succ_lt_succ hn, .cons walk hvisits, rfl⟩

end Follow

end Tail

end JobWatch
