/-
  JobWatch.Proofs.PageWalk
  ────────────────────────
  **WALKS, WITHOUT A LIMIT ON CALLS.**

  A walk takes step after step from a cursor until a step brings no page.  It
  is a relation between where it starts and the pages it brings, and needs no
  bound on its length; a fetch, which collects with a bound, is tied to it in
  both directions:

      newer_eq_ok_iff     — the new messages of a page, in one equation
      walk_of_collect     — what a fetch collects, a walk has brought
      collect_of_walk     — a walk over readable messages is collected as
                            soon as the bound allows for its pages
      fetchSince_spec     — a good fetch gives the stable sort of the new
                            messages of the pages walked
-/
import JobWatch.Proofs.InstantOrder
import JobWatch.Proofs.Outcomes
import JobWatch.Proofs.StableSort

namespace JobWatch

/-! ## §1. The new messages of a page. -/

/-- The message beside its timestamp, if it is known to be later than `since`. -/
def Message.timedAfter? (since : Instant) (m : Message) : Option Timed :=
  match m.timestamp with
  | .ok (some t) => if since < t then some (t, m) else none
  | _ => none

/-- A message beside its own timestamp. -/
def Timed.Faithful (x : Timed) : Prop := x.2.timestamp = .ok (some x.1)

theorem Message.timedAfter?_eq_some_iff (since : Instant) (m : Message) (x : Timed) :
    m.timedAfter? since = some x ↔ x.2 = m ∧ Timed.Faithful x ∧ since < x.1 := by
  obtain ⟨t, m'⟩ := x
  unfold timedAfter? Timed.Faithful
  constructor
  · intro h
    split at h
    next t' ht =>
      split at h
      next hlt =>
        obtain ⟨rfl, rfl⟩ := Prod.mk.inj (Option.some.inj h)
        exact ⟨rfl, ht, hlt⟩
      next => exact absurd h (by simp)
    next => exact absurd h (by simp)
  · rintro ⟨rfl, ht, hlt⟩
    simp only at ht hlt
    rw [ht]
    exact if_pos hlt

/-- A message is selected with its timestamp exactly when it is selected. -/
theorem Message.timedAfter?_map_snd (since : Instant) (m : Message) :
    (m.timedAfter? since).map Prod.snd = if m.isAfter since then some m else none := by
  cases hx : m.timedAfter? since with
  | some x =>
    obtain ⟨rfl, ht, hlt⟩ := (timedAfter?_eq_some_iff since m x).mp hx
    rw [if_pos ((isAfter_iff since x.2).mpr ⟨x.1, ht, hlt⟩)]
    rfl
  | none =>
    rw [if_neg]
    · rfl
    · intro ha
      obtain ⟨t, ht, hlt⟩ := (isAfter_iff since m).mp ha
      have hs := (timedAfter?_eq_some_iff since m (t, m)).mpr ⟨rfl, ht, hlt⟩
      rw [hx] at hs
      exact absurd hs (by simp)

theorem newer_cons_of_error (since : Instant) {m : Message} {e : NumberError}
    (h : m.timestamp = .error e) (ms : List Message) : newer since (m :: ms) = .error e := by
  unfold newer
  rw [h]

theorem newer_cons_of_ok (since : Instant) {m : Message} {t : Option Instant}
    (h : m.timestamp = .ok t) (ms : List Message) :
    newer since (m :: ms)
      = (newer since ms).map fun found => (m.timedAfter? since).toList ++ found := by
  have hid : newer since ms = (newer since ms).map fun found => ([] : List Timed) ++ found := by
    cases newer since ms <;> rfl
  rw [newer, Message.timedAfter?, h]
  cases t with
  | none => exact hid
  | some t =>
    show (if since < t then (newer since ms).map ((t, m) :: ·) else newer since ms)
      = (newer since ms).map fun found => (if since < t then some (t, m) else none).toList ++ found
    by_cases hlt : since < t
    · rw [if_pos hlt, if_pos hlt]
      rfl
    · rw [if_neg hlt, if_neg hlt]
      exact hid

/-- **The new messages of a page** are found when every timestamp can be decoded, and are then
those later than `since` as they were listed. -/
theorem newer_eq_ok_iff (since : Instant) (ms : List Message) (found : List Timed) :
    newer since ms = .ok found
      ↔ (∀ m ∈ ms, m.Readable) ∧ found = ms.filterMap (Message.timedAfter? since) := by
  induction ms generalizing found with
  | nil =>
    rw [newer, List.filterMap_nil]
    constructor
    · intro h
      exact ⟨List.forall_mem_nil _, (Except.ok.inj h).symm⟩
    · rintro ⟨-, rfl⟩
      rfl
  | cons m ms ih =>
    rw [List.forall_mem_cons]
    cases ht : m.timestamp with
    -- one undecodable time spoils the page
    | error e =>
      rw [newer_cons_of_error since ht]
      constructor
      · intro h
        exact absurd h (by simp)
      · rintro ⟨⟨⟨t, hread⟩, -⟩, -⟩
        rw [ht] at hread
        exact absurd hread (by simp)
    | ok t =>
      have hhead : (m :: ms).filterMap (Message.timedAfter? since)
          = (m.timedAfter? since).toList ++ ms.filterMap (Message.timedAfter? since) := by
        rw [List.filterMap_cons]
        cases m.timedAfter? since <;> rfl
      rw [newer_cons_of_ok since ht, hhead]
      constructor
      · intro h
        obtain ⟨rest, hn, rfl⟩ := ok_of_map h
        obtain ⟨hread, rfl⟩ := (ih rest).mp hn
        exact ⟨⟨⟨t, ht⟩, hread⟩, rfl⟩
      · rintro ⟨⟨-, hread⟩, rfl⟩
        rw [(ih _).mpr ⟨hread, rfl⟩]
        rfl

/-- Without their timestamps, the new messages of a page are those that are later. -/
theorem map_snd_filterMap_timedAfter? (since : Instant) (ms : List Message) :
    (ms.filterMap (Message.timedAfter? since)).map Prod.snd
      = ms.filter (Message.isAfter since) := by
  rw [List.map_filterMap, ← List.filterMap_eq_filter]
  refine List.filterMap_congr fun m _ => ?_
  rw [Message.timedAfter?_map_snd]
  rfl

theorem faithful_of_mem_filterMap {since : Instant} {ms : List Message} {x : Timed}
    (hx : x ∈ ms.filterMap (Message.timedAfter? since)) : x.Faithful := by
  obtain ⟨m, -, hm⟩ := List.mem_filterMap.mp hx
  exact ((Message.timedAfter?_eq_some_iff since m x).mp hm).2.1

/-! ## §2. Walks. -/

namespace Cursor

theorem settle_eq_error_iff {r : Response} {e : Failure} :
    (settle r).1 = .error e ↔ r = .error e := by
  match r with
  | .error e' => exact Iff.rfl
  | .ok none => exact ⟨fun h => absurd h (by simp [settle]), fun h => absurd h (by simp)⟩
  | .ok (some p) =>
    constructor
    · intro h
      rw [settle] at h
      split at h <;> exact absurd h (by simp)
    · exact fun h => absurd h (by simp)

/-- A step brings nothing when the response has no page or one without messages. -/
theorem settle_eq_none_iff {r : Response} :
    (settle r).1 = .ok none ↔ r = .ok none ∨ ∃ p, r = .ok (some p) ∧ p.content = [] := by
  match r with
  | .error e => simp [settle]
  | .ok none => simp [settle]
  | .ok (some p) =>
    rw [settle]
    split
    next hp => simpa using hp
    next hp => simpa using hp

/-- A step brings the page of the response when that has messages. -/
theorem settle_eq_page_iff {r : Response} {p : Page} :
    (settle r).1 = .ok (some p) ↔ r = .ok (some p) ∧ p.content ≠ [] := by
  match r with
  | .error e => simp [settle]
  | .ok none => simp [settle]
  | .ok (some q) =>
    rw [settle]
    split
    next hq =>
      simp only [Except.ok.injEq, reduceCtorEq, Option.some.injEq, false_iff, not_and]
      rintro rfl
      simpa using hq
    next hq =>
      simp only [Except.ok.injEq, Option.some.injEq]
      constructor
      · rintro rfl
        exact ⟨rfl, by simpa using hq⟩
      · exact fun h => h.1

/-- A step that brings a page leads behind it. -/
theorem settle_snd_of_page {r : Response} {p : Page} (h : (settle r).1 = .ok (some p)) :
    (settle r).2 = after p := by
  obtain ⟨rfl, hp⟩ := settle_eq_page_iff.mp h
  rw [settle, if_neg (by simpa using hp)]

/-- A step that brings no page leads to the end. -/
theorem settle_snd_of_no_page {r : Response} (h : ∀ p, (settle r).1 ≠ .ok (some p)) :
    (settle r).2 = .ended := by
  match r with
  | .error e => rfl
  | .ok none => rfl
  | .ok (some p) =>
    by_cases hp : p.content = []
    · rw [settle, if_pos (by simpa using hp)]
    · exact absurd (settle_eq_page_iff.mpr ⟨rfl, hp⟩) (h p)

end Cursor

section Walk

variable {σ : Type} (service : Service σ) (project job : Value)

/-- `Walk service project job c s pages s'`: from the cursor `c`, step after step brings `pages`,
then a step brings nothing; the service goes from `s` to `s'`. -/
inductive Walk : Cursor → σ → List Page → σ → Prop
  /-- A step that brings nothing is the last. -/
  | stop {c : Cursor} {s : σ} (h : (c.advance service project job s).page = .ok none) :
      Walk c s [] (c.advance service project job s).state
  /-- A step that brings a page is followed by others. -/
  | page {c : Cursor} {s : σ} {p : Page} {pages : List Page} {s' : σ}
      (h : (c.advance service project job s).page = .ok (some p))
      (rest : Walk (c.advance service project job s).cursor
        (c.advance service project job s).state pages s') :
      Walk c s (p :: pages) s'

variable {service project job}

/-- A walk is determined by where it starts. -/
theorem Walk.unique {c : Cursor} {s s₁ s₂ : σ} {pages₁ pages₂ : List Page}
    (h₁ : Walk service project job c s pages₁ s₁) (h₂ : Walk service project job c s pages₂ s₂) :
    pages₁ = pages₂ ∧ s₁ = s₂ := by
  induction h₁ generalizing pages₂ with
  | stop hstop =>
    cases h₂ with
    | stop => exact ⟨rfl, rfl⟩
    | page hpage =>
      rw [hstop] at hpage
      exact absurd hpage (by simp)
  | page hpage _ ih =>
    cases h₂ with
    | stop hstop =>
      rw [hpage] at hstop
      exact absurd hstop (by simp)
    | page hpage' rest =>
      rw [hpage] at hpage'
      obtain rfl := Option.some.inj (Except.ok.inj hpage')
      obtain ⟨rfl, hs⟩ := ih rest
      exact ⟨rfl, hs⟩

end Walk

/-- The messages of pages in the order of the walk. -/
def messagesOn (pages : List Page) : List Message := pages.flatMap Page.content

theorem messagesOn_cons (p : Page) (pages : List Page) :
    messagesOn (p :: pages) = p.content ++ messagesOn pages := List.flatMap_cons

/-! ## §3. Collecting is walking. -/

section Collect

variable {σ : Type} {service : Service σ} {project job : Value} {since : Instant} {limit : Nat}
  {c : Cursor} {s : σ}

theorem collect_of_stop (h : (c.advance service project job s).page = .ok none) :
    collect service project job since (limit + 1) c s
      = { result := .ok {}
          state := (c.advance service project job s).state
          log := (c.advance service project job s).log } := by
  cases c with
  | ended => rfl
  | before token =>
    unfold collect
    simp only [h]

theorem collect_of_failure {e : Failure}
    (h : (c.advance service project job s).page = .error e) :
    collect service project job since (limit + 1) c s
      = { result := .error e
          state := (c.advance service project job s).state
          log := (c.advance service project job s).log } := by
  cases c with
  | ended => exact absurd h (by simp [Cursor.advance])
  | before token =>
    unfold collect
    simp only [h]

theorem collect_of_unreadable {p : Page} {e : NumberError}
    (h : (c.advance service project job s).page = .ok (some p))
    (hnew : newer since p.content = .error e) :
    collect service project job since (limit + 1) c s
      = { result := .error (.number e)
          state := (c.advance service project job s).state
          log := (c.advance service project job s).log } := by
  cases c with
  | ended => exact absurd h (by simp [Cursor.advance])
  | before token =>
    unfold collect
    simp only [h, hnew]

theorem collect_of_page {p : Page} {found : List Timed}
    (h : (c.advance service project job s).page = .ok (some p))
    (hnew : newer since p.content = .ok found) :
    collect service project job since (limit + 1) c s
      = let step := c.advance service project job s
        let rest := collect service project job since limit step.cursor step.state
        { result := rest.result.map fun haul =>
            { messages := found ++ haul.messages, pages := haul.pages + 1 }
          state := rest.state
          log := step.log ++ rest.log } := by
  cases c with
  | ended => exact absurd h (by simp [Cursor.advance])
  | before token =>
    rw [collect]
    simp only [h, hnew]

/-- What the next step of a walk can be: a failure, the end, a page with a timestamp that cannot
be decoded, or a page whose new messages are found. -/
theorem advance_cases (service : Service σ) (project job : Value) (since : Instant) (c : Cursor)
    (s : σ) :
    (∃ e, (c.advance service project job s).page = .error e)
      ∨ (c.advance service project job s).page = .ok none
      ∨ (∃ p e, (c.advance service project job s).page = .ok (some p)
          ∧ newer since p.content = .error e)
      ∨ ∃ p found, (c.advance service project job s).page = .ok (some p)
          ∧ newer since p.content = .ok found := by
  cases (c.advance service project job s).page with
  | error e => exact Or.inl ⟨e, rfl⟩
  | ok page =>
    cases page with
    | none => exact Or.inr (Or.inl rfl)
    | some p =>
      cases hnew : newer since p.content with
      | error e => exact Or.inr (Or.inr (Or.inl ⟨p, e, rfl, hnew⟩))
      | ok found => exact Or.inr (Or.inr (Or.inr ⟨p, found, rfl, hnew⟩))

/-- **What is collected has been walked.** -/
theorem walk_of_collect {haul : Haul}
    (h : (collect service project job since limit c s).result = .ok haul) :
    ∃ pages, Walk service project job c s pages
        (collect service project job since limit c s).state
      ∧ (∀ m ∈ messagesOn pages, m.Readable)
      ∧ haul.messages = (messagesOn pages).filterMap (Message.timedAfter? since)
      ∧ haul.pages = pages.length := by
  induction limit generalizing c s haul with
  | zero =>
    cases c with
    | before token => exact absurd h (by simp [collect])
    | ended =>
      obtain rfl := Except.ok.inj h
      exact ⟨[], Walk.stop rfl, List.forall_mem_nil _, rfl, rfl⟩
  | succ limit ih =>
    rcases advance_cases service project job since c s with
      ⟨e, hstep⟩ | hstep | ⟨p, e, hstep, hnew⟩ | ⟨p, found, hstep, hnew⟩
    · rw [collect_of_failure hstep] at h
      exact absurd h (by simp)
    · rw [collect_of_stop hstep] at h ⊢
      obtain rfl := Except.ok.inj h
      exact ⟨[], Walk.stop hstep, List.forall_mem_nil _, rfl, rfl⟩
    · rw [collect_of_unreadable hstep hnew] at h
      exact absurd h (by simp)
    · rw [collect_of_page hstep hnew] at h ⊢
      obtain ⟨hread, rfl⟩ := (newer_eq_ok_iff since p.content found).mp hnew
      obtain ⟨rest, hrest, rfl⟩ := ok_of_map h
      obtain ⟨pages, hwalk, hreads, hmessages, hpages⟩ := ih hrest
      refine ⟨p :: pages, Walk.page hstep hwalk, ?_, ?_, ?_⟩
      · rw [messagesOn_cons]
        exact List.forall_mem_append.mpr ⟨hread, hreads⟩
      · show _ ++ rest.messages = _
        rw [messagesOn_cons, List.filterMap_append, hmessages]
      · show rest.pages + 1 = _
        rw [List.length_cons, hpages]

/-- **What is walked and can be decoded is collected**, given enough calls. -/
theorem collect_of_walk (since : Instant) {pages : List Page} {s' : σ}
    (w : Walk service project job c s pages s')
    (hread : ∀ m ∈ messagesOn pages, m.Readable) (hlimit : pages.length < limit) :
    (collect service project job since limit c s).result
      = .ok { messages := (messagesOn pages).filterMap (Message.timedAfter? since)
              pages := pages.length } := by
  induction w generalizing limit with
  -- the step that brings nothing may be a call of its own
  | stop hstop =>
    obtain ⟨limit, rfl⟩ : ∃ n, limit = n + 1 := ⟨limit - 1, by omega⟩
    rw [collect_of_stop hstop]
    rfl
  | @page c s p pages s' hstep _ ih =>
    obtain ⟨limit, rfl⟩ : ∃ n, limit = n + 1 := ⟨limit - 1, by omega⟩
    rw [messagesOn_cons] at hread ⊢
    obtain ⟨hp, hrest⟩ := List.forall_mem_append.mp hread
    rw [List.length_cons] at hlimit
    have hcollect := ih hrest (show pages.length < limit by omega)
    rw [collect_of_page hstep ((newer_eq_ok_iff since p.content _).mpr ⟨hp, rfl⟩)]
    simp only [hcollect]
    rw [List.filterMap_append, List.length_cons]
    rfl

end Collect

/-! ## §4. What a good fetch gives. -/

/-- Faithful pairs in order of their instants are, as messages, in order of rank. -/
theorem stablySorted_byInstant (ts : List Timed) (h : ∀ x ∈ ts, x.Faithful) :
    StablySorted Message.rank (ts.map Prod.snd) ((byInstant ts).map Prod.snd) := by
  have hrank : ∀ x ∈ ts, x.2.rank = (x.1 : WithBot Instant) := fun x hx =>
    (Message.rank_eq_coe_iff x.2 x.1).mpr (h x hx)
  have hmap : (byInstant ts).map Prod.snd
      = (ts.map Prod.snd).mergeSort fun a b => decide (a.rank ≤ b.rank) := by
    -- the pairs are compared by their instants, which are the ranks of their messages
    unfold byInstant
    refine List.map_mergeSort fun a ha b hb => ?_
    rw [hrank a ha, hrank b hb, Instant.before_eq_decide, ← decide_not]
    simp only [not_lt, WithBot.coe_le_coe]
  rw [hmap]
  exact stablySorted_mergeSort (fun _ _ => rfl) _

section FetchSince

variable {σ : Type} (service : Service σ) (project job : Value) (start : Instant) (limit : Nat)
  (s : σ)

/-- A fetch fails as its walk does, and else sorts what the walk has collected. -/
theorem fetchSince_result :
    (fetchSince service limit project job start s).result
      = (collect service project job start limit .start s).result.map fun haul =>
          byInstant haul.messages := by
  unfold fetchSince
  cases hcollect : (collect service project job start limit .start s).result with
  | error e =>
    simp only [hcollect]
    rfl
  | ok haul =>
    simp only [hcollect]
    rfl

theorem fetchSince_state :
    (fetchSince service limit project job start s).state
      = (collect service project job start limit .start s).state := by
  unfold fetchSince
  cases hcollect : (collect service project job start limit .start s).result with
  | error e => simp only [hcollect]
  | ok haul => simp only [hcollect]

variable {service project job start limit s}

/-- **A good fetch** has walked the listing and gives the stable sort of its new messages, each
beside its timestamp. -/
theorem fetchSince_spec {batch : List Timed}
    (h : (fetchSince service limit project job start s).result = .ok batch) :
    ∃ pages, Walk service project job .start s pages
        (fetchSince service limit project job start s).state
      ∧ (∀ m ∈ messagesOn pages, m.Readable)
      ∧ (∀ x ∈ batch, x.Faithful)
      ∧ StablySorted Message.rank ((messagesOn pages).filter (Message.isAfter start))
          (batch.map Prod.snd) := by
  rw [fetchSince_result] at h
  rw [fetchSince_state]
  obtain ⟨haul, hcollect, rfl⟩ := ok_of_map h
  obtain ⟨pages, hwalk, hread, hmessages, -⟩ := walk_of_collect hcollect
  have hfaithful : ∀ x ∈ haul.messages, x.Faithful := by
    rw [hmessages]
    exact fun x => faithful_of_mem_filterMap
  refine ⟨pages, hwalk, hread, ?_, ?_⟩
  · intro x hx
    exact hfaithful x (List.mem_mergeSort.mp hx)
  · have hsorted := stablySorted_byInstant haul.messages hfaithful
    rwa [hmessages, map_snd_filterMap_timedAfter?, ← hmessages] at hsorted

/-- **A walk over readable messages makes a good fetch**, given enough calls. -/
theorem fetchSince_of_walk (start : Instant) {pages : List Page} {s' : σ}
    (w : Walk service project job .start s pages s')
    (hread : ∀ m ∈ messagesOn pages, m.Readable) (hlimit : pages.length < limit) :
    ∃ batch, (fetchSince service limit project job start s).result = .ok batch
      ∧ StablySorted Message.rank ((messagesOn pages).filter (Message.isAfter start))
          (batch.map Prod.snd) := by
  have hgood : ∃ batch, (fetchSince service limit project job start s).result = .ok batch := by
    rw [fetchSince_result, collect_of_walk start w hread hlimit]
    exact ⟨_, rfl⟩
  obtain ⟨batch, hbatch⟩ := hgood
  obtain ⟨pages', hwalk, -, -, hsorted⟩ := fetchSince_spec hbatch
  obtain ⟨rfl, -⟩ := w.unique hwalk
  exact ⟨batch, hbatch, hsorted⟩

end FetchSince

end JobWatch
