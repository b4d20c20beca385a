/-
  JobWatch.Proofs.ListingFailures
  ───────────────────────────────
  **WHICH FAILURES COME OUT OF A LISTING OVER HTTP.**

  A walk over HTTP sends one request for each step, and the reply to it has
  the token of the next.  What the service chose for a token goes into a
  request unchecked, so the reply to one step decides whether the next step
  can send a request at all:

      Cursor.nth                — a step of a walk, by its number
      outcome_cases             — what a reply can say
      nth_page_of_reaches       — what a step says: its reply, or why there
                                  is no request for one
      nth_page_isMonitoring_iff — every other failure than the monitor's own
                                  has one of two causes
-/
import JobWatch.Proofs.ListingRequest
import JobWatch.Proofs.ScriptFetch
import JobWatch.Proofs.Utf8RoundTrip
import JobWatch.Value.Equality

namespace JobWatch

/-! ## §1. What replies say. -/

namespace Reply

/-- The reply is a success whose body nests lists and objects too deep. -/
def isTooDeep (nesting : Nat) : Reply → Bool
  | .answer status body _ =>
    Status.isSuccess status && match Json.readOctets body nesting with
      | .error .tooDeep => true
      | _ => false
  | _ => false

/-- The page in a reply: it is a success, and its body an object. -/
def page? (nesting : Nat) : Reply → Option Page
  | .answer status body _ =>
    if Status.isSuccess status then
      match Json.readOctets body nesting with
      | .ok (.object fields) => some (Page.ofFields fields)
      | _ => none
    else none
  | _ => none

theorem page?_of_object {nesting : Nat} {status : Int} (hstatus : Status.isSuccess status = true)
    {body : Bytes} {fields : Fields} (hbody : Json.readOctets body nesting = .ok (.object fields))
    (reason : Option Text) :
    (answer status body reason).page? nesting = some (Page.ofFields fields) := by
  unfold page?
  simp only [hstatus, hbody, if_true]

/-- The transport gave up for a reason of its own. -/
def isFailed : Reply → Bool
  | .failed _ => true
  | _ => false

/-- The token that a reply gives for the next step. -/
def nextToken (nesting : Nat) (r : Reply) : Value := ((r.page? nesting).map Page.next).getD .null

end Reply

namespace Client

/-- **A reply is a page, a failure of the monitor's own, or a body that nests too deep.** -/
theorem outcome_cases (nesting : Nat) {a : Address} (ha : a.isAbsolute = true) {r : Reply}
    (hr : r.isFailed = false) :
    (∃ p, r.page? nesting = some p ∧ r.isTooDeep nesting = false
        ∧ outcome nesting a r = .ok (some p))
      ∨ (r.page? nesting = none ∧ r.isTooDeep nesting = false
          ∧ ∃ e, outcome nesting a r = .error e ∧ e.isMonitoring = true)
      ∨ (r.page? nesting = none ∧ r.isTooDeep nesting = true
          ∧ outcome nesting a r = .error .tooDeep) := by
  cases r with
  | failed e => exact absurd hr (by simp [Reply.isFailed])
  | broken message => exact Or.inr (Or.inl ⟨rfl, rfl, _, rfl, rfl⟩)
  | answer status body reason =>
    have habsolute : ¬(!a.isAbsolute) = true := by simp [ha]
    unfold Reply.page? Reply.isTooDeep outcome
    simp only [if_neg habsolute]
    cases hstatus : Status.isSuccess status with
    | false => exact Or.inr (Or.inl ⟨rfl, rfl, _, rfl, rfl⟩)
    | true =>
      cases hbody : Json.readOctets body nesting with
      | error e =>
        cases e with
        | malformed => exact Or.inr (Or.inl ⟨rfl, rfl, _, rfl, rfl⟩)
        | tooDeep => exact Or.inr (Or.inr ⟨rfl, rfl, rfl⟩)
      | ok v =>
        cases v with
        | object fields => exact Or.inl ⟨_, rfl, rfl, rfl⟩
        | _ => exact Or.inr (Or.inl ⟨rfl, rfl, _, rfl, rfl⟩)

/-- A failure to send a request is none of the monitor's own. -/
theorem refusal_isMonitoring (token : Value) : (refusal token).isMonitoring = false := by
  unfold refusal
  split <;> rfl

end Client

/-! ## §2. The steps of a walk. -/

/-- The step of a walk with the number `n`; the first has the number 0. -/
def Cursor.nth {σ : Type} (service : Service σ) (project job : Value) :
    Nat → Cursor → σ → Step σ
  | 0, c, s => c.advance service project job s
  | n + 1, c, s =>
    nth service project job n (c.advance service project job s).cursor
      (c.advance service project job s).state

theorem Cursor.nth_ended {σ : Type} (service : Service σ) (project job : Value) (n : Nat) (s : σ) :
    (Cursor.nth service project job n .ended s).page = .ok none := by
  induction n with
  | zero => rfl
  | succ n ih => exact ih

/-- Behind a page the walk goes on when the page has messages and a next token. -/
theorem Cursor.settle_cursor (p : Page) :
    (settle (.ok (some p))).2
      = if Response.goesOn (.ok (some p)) then .before p.next else .ended := by
  show (if p.content.isEmpty then ((.ok none, .ended) : Response × Cursor)
      else (.ok (some p), if p.next.isNull then .ended else .before p.next)).2
    = if !p.content.isEmpty && !p.next.isNull then .before p.next else .ended
  cases p.content.isEmpty with
  | true => rfl
  | false => cases p.next.isNull <;> rfl

namespace Reply

/-- The walk goes on behind the reply: it is a page with messages and a next token. -/
def goesOn (nesting : Nat) (r : Reply) : Bool := Response.goesOn (.ok (r.page? nesting))

/-- The reply to the request with the number `n`. -/
def nth (replies : List Reply) (n : Nat) : Reply := replies.getD n Exchange.standing

/-- The token of the request with the number `n`: the first one, or what the reply before gave. -/
def tokenAt (nesting : Nat) (first : Value) (replies : List Reply) : Nat → Value
  | 0 => first
  | n + 1 => (nth replies n).nextToken nesting

/-- The walk has not ended before the request with the number `n`. -/
def Reaches (nesting : Nat) (first : Value) (replies : List Reply) (n : Nat) : Prop :=
  ∀ k < n, Client.Sendable (tokenAt nesting first replies k)
    ∧ (nth replies k).goesOn nesting = true

theorem isFailed_nth {replies : List Reply} (h : ∀ r ∈ replies, r.isFailed = false) (n : Nat) :
    (nth replies n).isFailed = false := by
  unfold nth
  rw [List.getD_eq_getElem?_getD]
  cases hr : replies[n]? with
  | none => rfl
  | some r => exact h r (List.mem_of_getElem? hr)

theorem nth_tail (replies : List Reply) (n : Nat) : nth replies.tail n = nth replies (n + 1) := by
  unfold nth
  rw [List.getD_eq_getElem?_getD, List.getD_eq_getElem?_getD, List.getElem?_tail]

section Nesting

variable {nesting : Nat}

theorem tokenAt_tail (first : Value) (replies : List Reply) (n : Nat) :
    tokenAt nesting ((nth replies 0).nextToken nesting) replies.tail n
      = tokenAt nesting first replies (n + 1) := by
  cases n with
  | zero => rfl
  | succ n =>
    show (nth replies.tail n).nextToken nesting = (nth replies (n + 1)).nextToken nesting
    rw [nth_tail]

/-- A later request is reached through the first one. -/
theorem reaches_succ_iff (first : Value) (replies : List Reply) (n : Nat) :
    Reaches nesting first replies (n + 1)
      ↔ (Client.Sendable first ∧ (nth replies 0).goesOn nesting = true)
        ∧ Reaches nesting ((nth replies 0).nextToken nesting) replies.tail n := by
  constructor
  · intro h
    refine ⟨h 0 (Nat.succ_pos n), fun k hk => ?_⟩
    rw [tokenAt_tail first, nth_tail]
    exact h (k + 1) (Nat.succ_lt_succ hk)
  · rintro ⟨hfirst, hrest⟩ k hk
    cases k with
    | zero => exact hfirst
    | succ k =>
      have hk' := hrest k (Nat.lt_of_succ_lt_succ hk)
      rwa [tokenAt_tail first, nth_tail] at hk'

theorem nextToken_of_page? {r : Reply} {p : Page} (h : r.page? nesting = some p) :
    r.nextToken nesting = p.next := by
  unfold nextToken
  rw [h]
  rfl

theorem goesOn_of_page? {r : Reply} {p : Page} (h : r.page? nesting = some p)
    (hp : Response.goesOn (.ok (some p)) = true) : r.goesOn nesting = true := by
  unfold goesOn
  rwa [h]

/-- Behind a first reply that goes on the second request is reached. -/
theorem reaches_one {r : Reply} (h : r.goesOn nesting = true) (rest : List Reply) :
    Reaches nesting .null (r :: rest) 1 := by
  have hfirst : Client.Sendable .null := by decide
  intro k hk
  obtain rfl : k = 0 := by omega
  exact ⟨hfirst, h⟩

end Nesting

end Reply

namespace Client

section Steps

variable {c : Client} {project job : Text} {a : Address} (h : c.ListsAt project job a)
include h

/-- A step whose request can be sent says what the reply says. -/
theorem advance_of_sendable {token : Value} (hs : Sendable token) (replies : List Reply)
    (sent : List Address) :
    ((Cursor.before token).advance (c.service Exchange.send) (.text project) (.text job)
        ⟨replies, sent⟩)
      = { page := (Cursor.settle (outcome c.nesting { a with query := queryOf token }
            (Reply.nth replies 0))).1
          cursor := (Cursor.settle (outcome c.nesting { a with query := queryOf token }
            (Reply.nth replies 0))).2
          state := ⟨replies.tail, sent ++ [{ a with query := queryOf token }]⟩
          log := logger.record .debug (report ⟨.text project, .text job, token⟩) none } := by
  unfold Cursor.advance
  simp only [h.service_of_sendable Exchange.send _ hs]
  cases replies <;> rfl

/-- A step whose request cannot be sent fails, and ends the walk. -/
theorem advance_of_not_sendable {token : Value} (hs : ¬Sendable token) (x : Exchange) :
    ((Cursor.before token).advance (c.service Exchange.send) (.text project) (.text job) x)
      = { page := .error (refusal token)
          cursor := .ended
          state := x
          log := logger.record .debug (report ⟨.text project, .text job, token⟩) none } := by
  unfold Cursor.advance
  simp only [h.service_of_not_sendable Exchange.send _ hs]
  rfl

/-- Behind a reply the walk is before the next token if it goes on, else at the end. -/
theorem advance_cursor {token : Value} (hs : Sendable token) {replies : List Reply}
    (hreplies : ∀ r ∈ replies, r.isFailed = false) (sent : List Address) :
    ((Cursor.before token).advance (c.service Exchange.send) (.text project) (.text job)
        ⟨replies, sent⟩).cursor
      = if (Reply.nth replies 0).goesOn c.nesting then
          .before ((Reply.nth replies 0).nextToken c.nesting)
        else .ended := by
  rw [advance_of_sendable h hs]
  unfold Reply.goesOn Reply.nextToken
  have habsolute : ({ a with query := queryOf token } : Address).isAbsolute = true := h.absolute
  rcases outcome_cases c.nesting habsolute (Reply.isFailed_nth hreplies 0) with
    ⟨p, hpage, -, hout⟩ | ⟨hpage, -, e, hout, -⟩ | ⟨hpage, -, hout⟩
  · rw [hpage]
    simp only [hout]
    exact Cursor.settle_cursor p
  · rw [hpage]
    simp only [hout]
    rfl
  · rw [hpage]
    simp only [hout]
    rfl

theorem nth_page_of_reaches {replies : List Reply} {n : Nat} {token : Value}
    (hreplies : ∀ r ∈ replies, r.isFailed = false)
    (hreach : Reply.Reaches c.nesting token replies n) (sent : List Address) :
    (Cursor.nth (c.service Exchange.send) (.text project) (.text job) n (.before token)
        ⟨replies, sent⟩).page
      = if Sendable (Reply.tokenAt c.nesting token replies n) then
          (Cursor.settle (outcome c.nesting
            { a with query := queryOf (Reply.tokenAt c.nesting token replies n) }
            (Reply.nth replies n))).1
        else .error (refusal (Reply.tokenAt c.nesting token replies n)) := by
  -- behind a reply that goes on stands the same walk, over the replies that are left
  induction n generalizing replies token sent with
  | zero =>
    show ((Cursor.before token).advance _ _ _ _).page = _
    by_cases hs : Sendable token
    · rw [advance_of_sendable h hs]
      exact (if_pos hs).symm
    · rw [advance_of_not_sendable h hs]
      exact (if_neg hs).symm
  | succ n ih =>
    obtain ⟨⟨hs, hgoes⟩, hrest⟩ := (Reply.reaches_succ_iff token replies n).mp hreach
    have hcursor := advance_cursor h hs hreplies sent
    rw [if_pos hgoes] at hcursor
    rw [Cursor.nth, hcursor, advance_of_sendable h hs,
      ih (fun r hr => hreplies r (List.mem_of_mem_tail hr)) hrest, Reply.tokenAt_tail token,
      Reply.nth_tail]

theorem nth_page_of_not_reaches {replies : List Reply} {n : Nat} {token : Value}
    (hreplies : ∀ r ∈ replies, r.isFailed = false)
    (hreach : ¬Reply.Reaches c.nesting token replies n) (sent : List Address) :
    (Cursor.nth (c.service Exchange.send) (.text project) (.text job) n (.before token)
        ⟨replies, sent⟩).page = .ok none := by
  -- the walk ends at the first request that cannot be sent, or behind the first reply that does
  -- not go on; a later step finds it at its end
  induction n generalizing replies token sent with
  | zero => exact absurd (fun k hk => absurd hk (Nat.not_lt_zero k)) hreach
  | succ n ih =>
    rw [Cursor.nth]
    by_cases hs : Sendable token
    · have hcursor := advance_cursor h hs hreplies sent
      cases hgoes : (Reply.nth replies 0).goesOn c.nesting with
      | true =>
        rw [hgoes, if_pos rfl] at hcursor
        rw [hcursor, advance_of_sendable h hs]
        refine ih (fun r hr => hreplies r (List.mem_of_mem_tail hr)) ?_ _
        intro hrest
        exact hreach ((Reply.reaches_succ_iff token replies n).mpr ⟨⟨hs, hgoes⟩, hrest⟩)
      | false =>
        rw [hgoes, if_neg Bool.false_ne_true] at hcursor
        rw [hcursor]
        exact Cursor.nth_ended _ _ _ n _
    · rw [advance_of_not_sendable h hs]
      exact Cursor.nth_ended _ _ _ n _

end Steps

/-! ## §3. Failures that are not the monitor's own. -/

/-- **A step of a walk over HTTP fails with a failure of the monitor's own**, whatever the service
replies, if the token that it gave for the step can be sent, and the body of the reply does not
nest too deep; if the walk comes to the step, only then. -/
theorem nth_page_isMonitoring_iff {c : Client} {project job : Text} (h : c.CanList project job)
    (replies : List Reply) (hreplies : ∀ r ∈ replies, r.isFailed = false) (n : Nat) :
    (∀ e, (Cursor.nth (c.service Exchange.send) (.text project) (.text job) n .start
        ⟨replies, []⟩).page = .error e → e.isMonitoring = true)
      ↔ (Reply.Reaches c.nesting .null replies n →
          Sendable (Reply.tokenAt c.nesting .null replies n)
            ∧ (Reply.nth replies n).isTooDeep c.nesting = false) := by
  obtain ⟨a, ha⟩ := h.listsAt
  by_cases hreach : Reply.Reaches c.nesting .null replies n
  · have hpage := nth_page_of_reaches ha hreplies hreach []
    rw [Cursor.start, hpage]
    by_cases hs : Sendable (Reply.tokenAt c.nesting .null replies n)
    · rw [if_pos hs]
      simp only [Cursor.settle_eq_error_iff]
      have habsolute : ({ a with query := queryOf (Reply.tokenAt c.nesting .null replies n) } :
          Address).isAbsolute = true := ha.absolute
      rcases outcome_cases c.nesting habsolute (Reply.isFailed_nth hreplies n) with
        ⟨p, -, hdeep, hout⟩ | ⟨-, hdeep, e, hout, he⟩ | ⟨-, hdeep, hout⟩
      · rw [hout]
        exact ⟨fun _ _ => ⟨hs, hdeep⟩, fun _ e he => absurd he (by simp)⟩
      · rw [hout]
        refine ⟨fun _ _ => ⟨hs, hdeep⟩, ?_⟩
        intro _ e' he'
        rwa [← Except.error.inj he']
      · rw [hout]
        constructor
        · intro hall
          exact absurd (hall .tooDeep rfl) (by decide)
        · intro hgood
          exact absurd (hgood hreach).2 (by simp [hdeep])
    · rw [if_neg hs]
      constructor
      · intro hall
        have hown := hall _ rfl
        rw [refusal_isMonitoring] at hown
        exact absurd hown (by decide)
      · intro hgood
        exact absurd (hgood hreach).1 hs
  · have hpage := nth_page_of_not_reaches ha hreplies hreach []
    rw [Cursor.start, hpage]
    exact ⟨fun _ hr => absurd hr hreach, fun _ e he => absurd he (by simp)⟩

theorem nesting_ofUrl (url : Text) (nesting : Nat) : (ofUrl url nesting).nesting = nesting :=
  rfl

/-- A page of one message without a time, with a next token as it is written. -/
def pageBeforeBody (token : Text) : Bytes := Utf8.encode
  (Text.ofString "\x7b\"jobMessages\":[\x7b\x7d],\"nextPageToken\":\"" ++ token
    ++ Text.ofString "\"\x7d")

/-- The page as a success. -/
def pageBefore (token : Text) : Reply := .answer 200 (pageBeforeBody token) none

/-- When the second reply does not come, the second step fails with a failure of the monitor's
own. -/
theorem nth_page_isMonitoring_broken :
    ∃ e, (Cursor.nth ((ofUrl Settings.defaultUrl).service Exchange.send) (.text "p") (.text "j") 1
        .start ⟨[pageBefore "a b", .broken "refused"], []⟩).page = .error e
      ∧ e.isMonitoring = true := by
  have hbody : Json.readOctets (pageBeforeBody "a b")
      = .ok (.object [("jobMessages", .list [.object []]), ("nextPageToken", .text "a b")]) := by
    rw [pageBeforeBody, Json.readOctets_encode (by decide)]
    decide +kernel
  have hpage : (pageBefore "a b").page? Json.usualNesting = some _ :=
    Reply.page?_of_object (by decide) hbody none
  have hreach := Reply.reaches_one (Reply.goesOn_of_page? hpage rfl) [.broken "refused"]
  have hnext : Reply.tokenAt Json.usualNesting .null [pageBefore "a b", .broken "refused"] 1
      = .text "a b" :=
    Reply.nextToken_of_page? hpage
  obtain ⟨a, ha⟩ := canList_default.listsAt
  have hstep := nth_page_of_reaches ha (by decide) hreach []
  have hsend : Sendable
      (Reply.tokenAt Json.usualNesting .null [pageBefore "a b", .broken "refused"] 1) := by
    rw [hnext]
    decide
  rw [nesting_ofUrl, if_pos hsend] at hstep
  have hgood := (nth_page_isMonitoring_iff canList_default
    [pageBefore "a b", .broken "refused"] (by decide) 1).mpr fun _ => ⟨hsend, rfl⟩
  exact ⟨_, hstep, hgood _ hstep⟩

/-- A service may give a token that holds half of a surrogate pair.  The second step can then send
no request, and its failure is none of the monitor's own. -/
theorem nth_page_loneSurrogate :
    (ofUrl Settings.defaultUrl).CanList "p" "j"
      ∧ (Cursor.nth ((ofUrl Settings.defaultUrl).service Exchange.send) (.text "p") (.text "j") 1
          .start ⟨[pageBefore "\\ud800"], []⟩).page = .error .unencodable
      ∧ Failure.unencodable.isMonitoring = false := by
  have hbody : Json.readOctets (pageBeforeBody "\\ud800")
      = .ok (.object [("jobMessages", .list [.object []]),
          ("nextPageToken", .text [CodePoint.ofNat 0xD800])]) := by
    rw [pageBeforeBody, Json.readOctets_encode (by decide)]
    decide +kernel
  have hpage : (pageBefore "\\ud800").page? Json.usualNesting = some _ :=
    Reply.page?_of_object (by decide) hbody none
  have hreach := Reply.reaches_one (Reply.goesOn_of_page? hpage rfl) []
  have hnext : Reply.tokenAt Json.usualNesting .null [pageBefore "\\ud800"] 1
      = .text [CodePoint.ofNat 0xD800] :=
    Reply.nextToken_of_page? hpage
  obtain ⟨a, ha⟩ := canList_default.listsAt
  have hstep := nth_page_of_reaches ha (by decide) hreach []
  have hsend : ¬Sendable (Reply.tokenAt Json.usualNesting .null [pageBefore "\\ud800"] 1) := by
    rw [hnext]
    decide
  rw [nesting_ofUrl, if_neg hsend] at hstep
  refine ⟨canList_default, hstep.trans ?_, rfl⟩
  rw [hnext]
  rfl

end Client

end JobWatch
