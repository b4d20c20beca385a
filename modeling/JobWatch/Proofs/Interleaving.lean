/-
  JobWatch.Proofs.Interleaving
  ────────────────────────────
  **READERS OF LISTINGS DO NOT DISTURB EACH OTHER.**

  A reader brings the pages of a job one at a time, and keeps its place in the
  listing between one page and the next.  Readers are made and advanced in any
  order on one monitor, with fetches and polls among their steps; all of them
  call the same service.  If what the service says depends on the call alone,
  every reader goes its own way:

      history             — deeds one after the other, and what is seen of each
      seen_own, seen_other
                          — what one deed does to one reader
      turns_history       — the turns of a reader depend on its place alone
      turns_of_making     — and so does the whole way of a reader that is made
      readers_undisturbed — making a reader calls nothing, and a reader calls
                            and brings what it would if it were alone
      outcome_of_fetch    — a fetch among other deeds gives what it would alone
-/
import JobWatch.Proofs.PollTrace
import JobWatch.Proofs.WalkSimulation

namespace JobWatch

/-! ## §1. Readers and deeds. -/

/-- A reader of the listing of a job, and its place in it. -/
structure Reader where
  job : Value
  cursor : Cursor

/-- The readers that were made, by their numbers, and the service that all of them call. -/
structure Desk (σ : Type) where
  readers : List Reader
  state : σ

/-- Something that is done with a monitor. -/
inductive Deed (σ ρ : Type) where
  /-- A reader is made; it gets the next number. -/
  | make (job : Value)
  /-- The reader with a number is asked for its next page. -/
  | advance (i : Nat)
  /-- The messages of a job are fetched. -/
  | fetch (limit : Nat) (job : Value) (since : Checkpoint)
  /-- A job is polled for an agent. -/
  | poll (limit : Nat) (job : Value) (since : Checkpoint) (agent : Agent σ ρ)

/-- What comes of a deed. -/
inductive Outcome (ρ : Type) where
  /-- Nothing: a reader was made, or there is no reader with the number. -/
  | nothing
  /-- What a reader brings. -/
  | brought (page : Response)
  /-- What a fetch gives. -/
  | fetched (result : Except Failure (List Message))
  /-- What a poll gives, and what its agent made of the batch. -/
  | polled (result : Except Failure Instant) (handled : Option ρ)

/-- A deed, what came of it, and what of it could be seen from outside. -/
structure Sighting (σ ρ : Type) where
  deed : Deed σ ρ
  outcome : Outcome ρ
  events : List Event

namespace Deed

variable {σ ρ : Type}

/-- The deed makes a reader. -/
def isMaking : Deed σ ρ → Bool
  | make _ => true
  | _ => false

/-- The deed asks the reader with the number `i` for its next page. -/
def isAdvance (i : Nat) : Deed σ ρ → Bool
  | advance j => j == i
  | _ => false

/-- The deed, its agent noting what it is given. -/
def noted : Deed σ ρ → Deed (σ × List Event) ρ
  | make job => make job
  | advance i => advance i
  | fetch limit job since => fetch limit job since
  | poll limit job since agent => poll limit job since agent.noted

variable (service : Service σ) (project : Value)

/-- Does a deed. -/
def perform : Deed σ ρ → Desk σ → Outcome ρ × Desk σ
  | make job, d => (.nothing, ⟨d.readers ++ [⟨job, .start⟩], d.state⟩)
  | advance i, d =>
    match d.readers[i]? with
    | none => (.nothing, d)
    | some reader =>
      let step := reader.cursor.advance service project reader.job d.state
      (.brought step.page, ⟨d.readers.set i { reader with cursor := step.cursor }, step.state⟩)
  | fetch limit job since, d =>
    let effect := JobWatch.fetch service limit project job since d.state
    (.fetched effect.result, ⟨d.readers, effect.state⟩)
  | poll limit job since agent, d =>
    let polled := pollWith service limit project job since agent d.state
    (.polled polled.result polled.handled, ⟨d.readers, polled.state⟩)

/-- Does a deed and writes down what is seen of it. -/
def seen (deed : Deed σ ρ) (d : Desk σ) : Sighting σ ρ × Desk σ :=
  let (outcome, after) := deed.noted.perform service.noted project ⟨d.readers, (d.state, [])⟩
  (⟨deed, outcome, after.state.2⟩, ⟨after.readers, after.state.1⟩)

end Deed

/-- Does deeds one after the other. -/
def history {σ ρ : Type} (service : Service σ) (project : Value) :
    Desk σ → List (Deed σ ρ) → List (Sighting σ ρ)
  | _, [] => []
  | d, deed :: deeds =>
    (deed.seen service project d).1 :: history service project (deed.seen service project d).2 deeds

/-! ## §2. Turns. -/

/-- One time that a reader was asked for its next page: what it called, and what it brought. -/
structure Turn where
  events : List Event
  page : Response

namespace Turn

/-- Nothing is called, and nothing brought. -/
def IsIdle (turn : Turn) : Prop := turn.events = [] ∧ turn.page = .ok none

/-- One call is made, and the answer to it is brought if it is a failure or a page with
messages. -/
def Asks (answer : Call → Response) (call : Call) (turn : Turn) : Prop :=
  turn.events = [.asked (call, answer call)] ∧ turn.page = (Cursor.settle (answer call)).1

/-- The turn brings no page: the reader has ended or failed. -/
def Ends (turn : Turn) : Prop := ∀ p, turn.page ≠ .ok (some p)

/-- `Follows answer project job turn turn'`: behind a page with a next token, `turn'` asks for
that page; behind any other page, and behind the end or a failure, it is idle. -/
def Follows (answer : Call → Response) (project job : Value) (turn turn' : Turn) : Prop :=
  match turn.page with
  | .ok (some p) =>
    if p.next.isNull then turn'.IsIdle else turn'.Asks answer ⟨project, job, p.next⟩
  | _ => turn'.IsIdle

/-- What the turns of one reader are like, from the first. -/
structure Lawful (answer : Call → Response) (project job : Value) (turns : List Turn) : Prop where
  /-- The first turn asks for the first page. -/
  first : ∀ turn ∈ turns.head?, turn.Asks answer ⟨project, job, .null⟩
  /-- Each later turn goes by what the one before has brought. -/
  next : turns.IsChain (Follows answer project job)
  /-- Behind the end or a failure all turns are idle. -/
  idle : turns.Pairwise fun turn turn' => turn.Ends → turn'.IsIdle

end Turn

section Turns

variable {σ ρ : Type}

/-- The turn of the reader with the number `i`, if it is seen in the sighting. -/
def Sighting.turn? (i : Nat) (e : Sighting σ ρ) : Option Turn :=
  match e.deed, e.outcome with
  | .advance j, .brought page => if j = i then some ⟨e.events, page⟩ else none
  | _, _ => none

/-- The turns of the reader with the number `i`. -/
def turns (i : Nat) (seen : List (Sighting σ ρ)) : List Turn := seen.filterMap (Sighting.turn? i)

/-- The first `n` turns of a reader that is made and advanced, with nothing else done. -/
def turnsAlone (ρ : Type) (service : Service σ) (project job : Value) (n : Nat) (s : σ) :
    List Turn :=
  let deeds : List (Deed σ ρ) := .make job :: List.replicate n (.advance 0)
  turns 0 (history service project ⟨[], s⟩ deeds)

end Turns

/-! ## §3. What one deed does to the readers. -/

section Seen

variable {σ ρ : Type} (service : Service σ) (project : Value) (d : Desk σ)

/-- Advancing a reader is one step from its place, and moves no other reader. -/
theorem seen_advance {i : Nat} {reader : Reader} (h : d.readers[i]? = some reader) :
    (Deed.advance i : Deed σ ρ).seen service project d
      = (⟨.advance i, .brought (reader.cursor.advance service project reader.job d.state).page,
            (reader.cursor.asks service project reader.job d.state).map Event.asked⟩,
          ⟨d.readers.set i ⟨reader.job,
              (reader.cursor.advance service project reader.job d.state).cursor⟩,
            (reader.cursor.advance service project reader.job d.state).state⟩) := by
  unfold Deed.seen Deed.noted Deed.perform
  simp only [h, advance_noted, List.nil_append]

theorem seen_advance_of_none {i : Nat} (h : d.readers[i]? = none) :
    (Deed.advance i : Deed σ ρ).seen service project d = (⟨.advance i, .nothing, []⟩, d) := by
  unfold Deed.seen Deed.noted Deed.perform
  simp only [h]

variable {d}

/-- **Asking a reader for its next page** is a step from its place to the next one. -/
theorem seen_own {deed : Deed σ ρ} {i : Nat} {reader : Reader}
    (hreader : d.readers[i]? = some reader) (hdeed : deed.isAdvance i = true) :
    let step := reader.cursor.advance service project reader.job d.state
    (deed.seen service project d).1.turn? i
        = some ⟨(reader.cursor.asks service project reader.job d.state).map Event.asked, step.page⟩
      ∧ (deed.seen service project d).2.readers[i]? = some ⟨reader.job, step.cursor⟩ := by
  obtain rfl : deed = .advance i := by
    cases deed with
    | advance j => exact congrArg Deed.advance (eq_of_beq hdeed)
    | _ => exact absurd hdeed Bool.false_ne_true
  rw [seen_advance service project d hreader]
  exact ⟨if_pos rfl, List.getElem?_set_self (List.getElem?_eq_some_iff.mp hreader).1⟩

/-- **Every other deed leaves a reader at its place.** -/
theorem seen_other {deed : Deed σ ρ} {i : Nat} {reader : Reader}
    (hreader : d.readers[i]? = some reader) (hdeed : deed.isAdvance i = false) :
    (deed.seen service project d).1.turn? i = none
      ∧ (deed.seen service project d).2.readers[i]? = some reader := by
  cases deed with
  | make job =>
    have hlt := (List.getElem?_eq_some_iff.mp hreader).1
    exact ⟨rfl, (List.getElem?_append_left hlt).trans hreader⟩
  | fetch limit job since => exact ⟨rfl, hreader⟩
  | poll limit job since agent => exact ⟨rfl, hreader⟩
  | advance j =>
    have hji : j ≠ i := ne_of_beq_false hdeed
    cases hj : d.readers[j]? with
    | none =>
      rw [seen_advance_of_none service project d hj]
      exact ⟨rfl, hreader⟩
    | some other =>
      rw [seen_advance service project d hj]
      exact ⟨if_neg hji, (List.getElem?_set_ne hji).trans hreader⟩

/-- A reader that is not made yet has no turns. -/
theorem turn?_of_unmade (deed : Deed σ ρ) {i : Nat} (hi : d.readers.length ≤ i) :
    (deed.seen service project d).1.turn? i = none := by
  cases deed with
  | make job => rfl
  | fetch limit job since => rfl
  | poll limit job since agent => rfl
  | advance j =>
    cases hj : d.readers[j]? with
    | none =>
      rw [seen_advance_of_none service project d hj]
      rfl
    | some reader =>
      have hlt : j < d.readers.length := (List.getElem?_eq_some_iff.mp hj).1
      rw [seen_advance service project d hj]
      exact if_neg (show j ≠ i by omega)

/-- No deed takes a reader away, and only making one adds any. -/
theorem length_readers_seen (deed : Deed σ ρ) :
    (deed.seen service project d).2.readers.length
      = d.readers.length + if deed.isMaking then 1 else 0 := by
  cases deed with
  | make job => exact List.length_append
  | fetch limit job since => rfl
  | poll limit job since agent => rfl
  | advance j =>
    cases hj : d.readers[j]? with
    | none =>
      rw [seen_advance_of_none service project d hj]
      rfl
    | some reader =>
      rw [seen_advance service project d hj]
      exact List.length_set

/-- **Making a reader calls nothing.** -/
theorem events_of_isMaking {deed : Deed σ ρ} (h : deed.isMaking = true) :
    (deed.seen service project d).1.events = [] := by
  cases deed with
  | make job => rfl
  | _ => exact absurd h Bool.false_ne_true

theorem turns_cons_of_none {deed : Deed σ ρ} {i : Nat}
    (h : (deed.seen service project d).1.turn? i = none) (deeds : List (Deed σ ρ)) :
    turns i (history service project d (deed :: deeds))
      = turns i (history service project (deed.seen service project d).2 deeds) :=
  List.filterMap_cons_none h

theorem turns_cons_of_some {deed : Deed σ ρ} {i : Nat} {turn : Turn}
    (h : (deed.seen service project d).1.turn? i = some turn) (deeds : List (Deed σ ρ)) :
    turns i (history service project d (deed :: deeds))
      = turn :: turns i (history service project (deed.seen service project d).2 deeds) :=
  List.filterMap_cons_some h

end Seen

/-! ## §4. A reader on its own. -/

/-- What the service says depends on the call alone. -/
def Service.Steady {σ : Type} (service : Service σ) (answer : Call → Response) : Prop :=
  ∀ s call, (service s call).response = answer call

namespace Cursor

variable (answer : Call → Response) (project job : Value)

/-- The turn of a reader at a place. -/
def turn : Cursor → Turn
  | .ended => ⟨[], .ok none⟩
  | .before token =>
    let call : Call := ⟨project, job, token⟩
    ⟨[.asked (call, answer call)], (settle (answer call)).1⟩

/-- The place behind a turn. -/
def moved : Cursor → Cursor
  | .ended => .ended
  | .before token => (settle (answer ⟨project, job, token⟩)).2

/-- The next `n` turns of a reader at a place. -/
def course : Nat → Cursor → List Turn
  | 0, _ => []
  | n + 1, c => c.turn answer project job :: course n (c.moved answer project job)

theorem length_course (n : Nat) (c : Cursor) :
    (course answer project job n c).length = n := by
  induction n generalizing c with
  | zero => rfl
  | succ n ih => exact congrArg (· + 1) (ih _)

/-- A shorter course is how a longer one begins. -/
theorem course_prefix {m n : Nat} (h : m ≤ n) (c : Cursor) :
    course answer project job m c <+: course answer project job n c := by
  induction m generalizing n c with
  | zero => exact List.nil_prefix
  | succ m ih =>
    cases n with
    | zero => exact absurd h (Nat.not_succ_le_zero m)
    | succ n => exact (List.prefix_cons_inj _).mpr (ih (Nat.le_of_succ_le_succ h) _)

/-- Behind the end all turns are idle. -/
theorem isIdle_of_mem_course {n : Nat} {t : Turn}
    (ht : t ∈ course answer project job n .ended) : t.IsIdle := by
  induction n with
  | zero => exact absurd ht List.not_mem_nil
  | succ n ih =>
    rcases List.mem_cons.mp ht with rfl | ht
    · exact ⟨rfl, rfl⟩
    · exact ih ht

variable {answer project job}

/-- Behind a turn that brings no page the reader is at the end. -/
theorem moved_of_ends {c : Cursor} (h : (c.turn answer project job).Ends) :
    c.moved answer project job = .ended := by
  cases c with
  | ended => rfl
  | before token => exact settle_snd_of_no_page h

/-- Behind a turn that brings a page the reader is behind that page. -/
theorem moved_of_page {c : Cursor} {p : Page}
    (h : (c.turn answer project job).page = .ok (some p)) :
    c.moved answer project job = after p := by
  cases c with
  | ended => exact absurd h (by simp [turn])
  | before token => exact settle_snd_of_page h

/-- **One turn decides on the next**: whether there is a call, and for which page. -/
theorem follows_moved (c : Cursor) :
    Turn.Follows answer project job (c.turn answer project job)
      ((c.moved answer project job).turn answer project job) := by
  unfold Turn.Follows
  split
  next p hp =>
    rw [moved_of_page hp]
    unfold after
    cases p.next.isNull with
    | true => exact ⟨rfl, rfl⟩
    | false => exact ⟨rfl, rfl⟩
  next hp =>
    rw [moved_of_ends hp]
    exact ⟨rfl, rfl⟩

/-- **The course of a reader is lawful.** -/
theorem lawful_course (n : Nat) :
    Turn.Lawful answer project job (course answer project job n .start) where
  first := by
    intro t ht
    cases n with
    | zero => exact absurd ht (by simp [course])
    | succ n =>
      obtain rfl := Option.some.inj ht
      exact ⟨rfl, rfl⟩
  next := by
    -- each place has a course behind it, so the induction is over any of them
    generalize Cursor.start = c
    induction n generalizing c with
    | zero => exact List.IsChain.nil
    | succ n ih =>
      cases n with
      | zero => exact List.IsChain.singleton _
      | succ n => exact List.isChain_cons_cons.mpr ⟨follows_moved c, ih _⟩
  idle := by
    generalize Cursor.start = c
    induction n generalizing c with
    | zero => exact List.Pairwise.nil
    | succ n ih =>
      refine List.pairwise_cons.mpr ⟨?_, ih _⟩
      intro t ht hends
      rw [moved_of_ends hends] at ht
      exact isIdle_of_mem_course answer project job ht

end Cursor

/-! ## §5. Readers among other deeds. -/

section History

variable {σ ρ : Type} {service : Service σ} {answer : Call → Response}

/-- A step calls and brings what the place says, and leads to the next one. -/
theorem Service.Steady.advance (hsteady : service.Steady answer) (project job : Value) (c : Cursor)
    (s : σ) :
    (c.asks service project job s).map Event.asked = (c.turn answer project job).events
      ∧ (c.advance service project job s).page = (c.turn answer project job).page
      ∧ (c.advance service project job s).cursor = c.moved answer project job := by
  cases c with
  | ended => exact ⟨rfl, rfl, rfl⟩
  | before token =>
    unfold Cursor.asks Cursor.advance
    simp only [hsteady s]
    exact ⟨rfl, rfl, rfl⟩

/-- **The turns of a reader depend on its place alone**, whatever is done between them. -/
theorem turns_history (hsteady : service.Steady answer) (project : Value) {i : Nat} {job : Value}
    {c : Cursor} (deeds : List (Deed σ ρ)) (d : Desk σ) (hreader : d.readers[i]? = some ⟨job, c⟩) :
    turns i (history service project d deeds)
      = Cursor.course answer project job (deeds.countP (Deed.isAdvance i)) c := by
  -- the place is general: an advance of the reader itself moves it, nothing else does
  induction deeds generalizing d c with
  | nil => rfl
  | cons deed deeds ih =>
    cases hdeed : deed.isAdvance i with
    | true =>
      obtain ⟨hturn, hmoved⟩ := seen_own service project hreader hdeed
      obtain ⟨hevents, hpage, hcursor⟩ := hsteady.advance project job c d.state
      rw [hevents, hpage] at hturn
      rw [hcursor] at hmoved
      rw [turns_cons_of_some service project hturn, List.countP_cons_of_pos hdeed, ih _ hmoved,
        Cursor.course]
    | false =>
      obtain ⟨hturn, hkept⟩ := seen_other service project hreader hdeed
      rw [turns_cons_of_none service project hturn, List.countP_cons_of_neg (by simp [hdeed])]
      exact ih _ hkept

/-- **A reader that is made** has the turns of the first page, the second, and so on, as many as
it is asked for. -/
theorem turns_of_making (hsteady : service.Steady answer) (project job : Value)
    (earlier later : List (Deed σ ρ)) (d : Desk σ) {i : Nat}
    (hi : i = d.readers.length + earlier.countP Deed.isMaking) :
    turns i (history service project d (earlier ++ .make job :: later))
      = Cursor.course answer project job (later.countP (Deed.isAdvance i)) .start := by
  -- its number is the number of readers that were made before it
  induction earlier generalizing d with
  | nil =>
    rw [List.countP_nil, Nat.add_zero] at hi
    subst hi
    rw [List.nil_append, turns_cons_of_none service project rfl]
    exact turns_history hsteady project later _ List.getElem?_concat_length
  | cons deed earlier ih =>
    have hunmade : d.readers.length ≤ i := by omega
    rw [List.cons_append,
      turns_cons_of_none service project (turn?_of_unmade service project deed hunmade)]
    refine ih _ ?_
    rw [hi, length_readers_seen, List.countP_cons]
    omega

theorem turnsAlone_eq (hsteady : service.Steady answer) (project job : Value) (n : Nat) (s : σ) :
    turnsAlone ρ service project job n s = Cursor.course answer project job n .start := by
  let advances : List (Deed σ ρ) := List.replicate n (.advance 0)
  have hcount : advances.countP (Deed.isAdvance 0) = n := by
    rw [List.countP_replicate]
    rfl
  have hturns : turns 0 (history service project ⟨[], s⟩ ([] ++ .make job :: advances))
      = Cursor.course answer project job (advances.countP (Deed.isAdvance 0)) .start :=
    turns_of_making hsteady project job [] advances ⟨[], s⟩ rfl
  rwa [hcount] at hturns

theorem events_of_making (project : Value) (d : Desk σ) (deeds : List (Deed σ ρ))
    {e : Sighting σ ρ} (he : e ∈ history service project d deeds)
    (hmaking : e.deed.isMaking = true) : e.events = [] := by
  induction deeds generalizing d with
  | nil => exact absurd he List.not_mem_nil
  | cons deed deeds ih =>
    rcases List.mem_cons.mp he with rfl | he
    · exact events_of_isMaking service project hmaking
    · exact ih _ he

/-- **Readers do not disturb each other.**  Over a service that says to a call what it says to
that call at any other time, whatever else is done before, between and after with readers,
fetches and polls: making a reader calls nothing; a reader has a turn each time that it is asked,
and its turns are how those begin that it would have alone; a turn makes one call, unless a page
without a next token, the end or a failure lies before it, when it makes none and brings
nothing. -/
theorem readers_undisturbed (hsteady : service.Steady answer) (project job : Value)
    (earlier later : List (Deed σ ρ)) (s : σ) :
    let seen := history service project ⟨[], s⟩ (earlier ++ .make job :: later)
    let number := earlier.countP Deed.isMaking
    (∀ e ∈ seen, e.deed.isMaking = true → e.events = [])
      ∧ (turns number seen).length = later.countP (Deed.isAdvance number)
      ∧ (∀ n s', (turns number seen).length ≤ n →
          turns number seen <+: turnsAlone ρ service project job n s')
      ∧ Turn.Lawful answer project job (turns number seen) := by
  intro seen number
  have hturns : turns number seen
      = Cursor.course answer project job (later.countP (Deed.isAdvance number)) .start :=
    turns_of_making hsteady project job earlier later ⟨[], s⟩ (Nat.zero_add _).symm
  rw [hturns]
  refine ⟨fun e => events_of_making project ⟨[], s⟩ _, Cursor.length_course _ _ _ _ _, ?_,
    Cursor.lawful_course _⟩
  intro n s' hn
  rw [Cursor.length_course] at hn
  rw [turnsAlone_eq hsteady]
  exact Cursor.course_prefix answer project job hn .start

/-- A service that gives one page and fails to give the next, and counts its calls. -/
def Service.onePage : Service Nat := fun s call =>
  ⟨if call.token.isNull then .ok (some { messages := some [.saidAt 1], next := .text "t" })
    else .error (.connection "reset"), s + 1, []⟩

/-- Two readers, a poll and a fetch: the second reader brings its page and fails while the first
is in between, and has ended then. -/
theorem readers_undisturbed_onePage :
    let p : Value := .text "p"
    let j : Value := .text "j"
    let earlier : List (Deed Nat (List Message)) :=
      [.make j, .advance 0, .poll 3 j .start Handler.keep.agent]
    let later : List (Deed Nat (List Message)) :=
      [.advance 1, .fetch 3 j .start, .advance 0, .advance 1, .make j, .advance 1]
    let seen := history Service.onePage p ⟨[], 0⟩ (earlier ++ .make j :: later)
    Service.onePage.Steady (fun call => (Service.onePage 0 call).response)
      ∧ (turns 1 seen).length = 3
      ∧ turns 1 seen <+: turnsAlone (List Message) Service.onePage p j 5 7
      ∧ Turn.Lawful (fun call => (Service.onePage 0 call).response) p j (turns 1 seen) := by
  intro p j earlier later seen
  have hsteady : Service.onePage.Steady (fun call => (Service.onePage 0 call).response) :=
    fun _ _ => rfl
  obtain ⟨-, hlength, hprefix, hlawful⟩ := readers_undisturbed hsteady p j earlier later 0
  exact ⟨hsteady, hlength, hprefix 5 7 (hlength.trans_le (by decide)), hlawful⟩

/-! ## §6. Fetches among other deeds. -/

theorem Service.Steady.noted (hsteady : service.Steady answer) : service.noted.Steady answer :=
  fun w call => hsteady w.1 call

/-- Over services that say the same to every call, fetches give the same. -/
theorem fetch_of_steady {τ : Type} {service' : Service τ} (hsteady : service.Steady answer)
    (hsteady' : service'.Steady answer) (limit : Nat) (project job : Value) (since : Checkpoint)
    (s : σ) (s' : τ) :
    (fetch service limit project job since s).result
      = (fetch service' limit project job since s').result := by
  -- the two states need not have anything in common
  have halike : Alike service service' project job (fun _ _ _ => True) (fun _ _ => True) :=
    { response := fun _ => (hsteady _ _).trans (hsteady' _ _).symm
      finished := fun _ => trivial
      next := fun _ _ _ => trivial
      stop := fun _ => trivial }
  exact (fetch_alike halike since limit trivial).1

/-- **A fetch gives what it would give alone**, whatever is done before it. -/
theorem outcome_of_fetch (hsteady : service.Steady answer) (project : Value)
    (deeds : List (Deed σ ρ)) (d : Desk σ) {limit : Nat} {job : Value} {since : Checkpoint}
    {e : Sighting σ ρ} (he : e ∈ history service project d deeds)
    (hdeed : e.deed = .fetch limit job since) (s : σ) :
    e.outcome = .fetched (fetch service limit project job since s).result := by
  induction deeds generalizing d with
  | nil => exact absurd he List.not_mem_nil
  | cons deed deeds ih =>
    rcases List.mem_cons.mp he with rfl | he
    · obtain rfl : deed = .fetch limit job since := hdeed
      exact congrArg Outcome.fetched
        (fetch_of_steady hsteady.noted hsteady limit project job since _ s)
    · exact ih _ he

end History

end JobWatch
