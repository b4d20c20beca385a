/-
  JobWatch.Proofs.HttpRefinement
  ──────────────────────────────
  **A LISTING OVER HTTP IS THE LISTING IN MEMORY.**

  A listing is a function from tokens to objects.  It can be asked directly,
  or served over HTTP, where the token is decoded from the address of the
  request and the object is written into the body of the reply.  Both give
  the same fetches:

      Listing.served   — the listing over HTTP
      Listing.inMemory — the listing asked directly
      fetch_served     — a fetch gives the same over both, by requests that
                         follow the tokens of the listing
-/
import Mathlib.Data.List.Chain
import JobWatch.Proofs.ListingRequest
import JobWatch.Proofs.WalkSimulation
import JobWatch.Value.Equality

namespace JobWatch

/-! ## §1. Listings. -/

/-- A listing: the object under each token, under none the first one. -/
abbrev Listing := Option Text → Fields

namespace Listing

/-- The token that an object gives for the next one. -/
def nextOf (fields : Fields) : Option Text :=
  match Fields.get "nextPageToken" fields with
  | .text t => if t.isEmpty then none else some t
  | _ => none

/-- The tokens of a listing are absent, null, or texts for which a request can be sent. -/
def HasTokens (l : Listing) : Prop :=
  ∀ token, Fields.get "nextPageToken" (l token) = .null
    ∨ ∃ t, Fields.get "nextPageToken" (l token) = .text t ∧ Client.Sendable (.text t)

/-- `Ends l token n`: from the object under `token`, `n` objects lead to one without a next
token. -/
inductive Ends (l : Listing) : Option Text → Nat → Prop
  | last {token : Option Text} (h : nextOf (l token) = none) : Ends l token 1
  | more {token : Option Text} {t : Text} {n : Nat} (h : nextOf (l token) = some t)
      (rest : Ends l (some t) n) : Ends l token (n + 1)

/-- The listing asked directly; the calls are noted. -/
def inMemory (l : Listing) : Service (List Call) := fun calls call =>
  { response := .ok (some (Page.ofFields (l call.token.text?)))
    state := calls ++ [call]
    log := [] }

/-- The listing over HTTP, each object written as `body` says; the addresses are noted. -/
def served (body : Option Text → Bytes) : Transport (List Address) := fun asked a =>
  (.answer 200 (body a.pageToken?) none, asked ++ [a])

/-- A token as it is handed to a service. -/
def value : Option Text → Value
  | none => .null
  | some t => .text t

/-- The next token of a page, if its object gives one. -/
theorem next_ofFields {l : Listing} (h : l.HasTokens) (token : Option Text) :
    (Page.ofFields (l token)).next = value (nextOf (l token)) := by
  unfold Page.ofFields nextOf
  rcases h token with hnull | ⟨t, ht, -⟩
  · simp only [hnull]
    rfl
  · simp only [ht, Value.holds]
    cases t <;> rfl

theorem get_of_nextOf {fields : Fields} {t : Text} (h : nextOf fields = some t) :
    Fields.get "nextPageToken" fields = .text t := by
  unfold nextOf at h
  split at h
  next t' ht' =>
    split at h
    · exact absurd h (by simp)
    · rw [ht', Option.some.inj h]
  next => exact absurd h (by simp)

theorem sendable_nextOf {l : Listing} (h : l.HasTokens) (token : Option Text) :
    ∀ t ∈ nextOf (l token), Client.Sendable (.text t) := by
  intro t ht
  rcases h token with hnull | ⟨t', ht', hsend⟩
  · rw [get_of_nextOf ht] at hnull
    exact absurd hnull (by simp)
  · rw [get_of_nextOf ht] at ht'
    rwa [Value.text.inj ht']

/-! ## §2. Walks in memory end. -/

/-- Where a walk stands behind an object. -/
def cursorBehind (fields : Fields) : Cursor :=
  match nextOf fields with
  | none => .ended
  | some t => .before (.text t)

/-- What is collected is good, or fails with a timestamp that cannot be decoded. -/
def Settled {α : Type} (result : Except Failure α) : Prop :=
  (∃ a, result = .ok a) ∨ ∃ e, result = .error (.number e)

section InMemory

variable {l : Listing} (htokens : l.HasTokens) (project job : Value) (since : Instant)
include htokens

/-- A step in memory leads to a good end if the walk behind it does. -/
theorem settled_step {token : Option Text} {limit : Nat} {calls : List Call}
    (hrest : ∀ calls, Settled (collect l.inMemory project job since limit
      (cursorBehind (l token)) calls).result) :
    Settled (collect l.inMemory project job since (limit + 1) (.before (value token))
      calls).result := by
  have hanswer : (l.inMemory calls ⟨project, job, value token⟩).response
      = .ok (some (Page.ofFields (l token))) := by
    cases token <;> rfl
  have hpage : ((Cursor.before (value token)).advance l.inMemory project job calls).page
      = (Cursor.settle (.ok (some (Page.ofFields (l token))))).1 := by
    rw [← hanswer]
    rfl
  rcases advance_cases l.inMemory project job since (.before (value token)) calls with
    ⟨e, hstep⟩ | hstep | ⟨p, e, hstep, hnew⟩ | ⟨p, found, hstep, hnew⟩
  · rw [hpage, Cursor.settle_eq_error_iff] at hstep
    exact absurd hstep (by simp)
  · rw [collect_of_stop hstep]
    exact Or.inl ⟨_, rfl⟩
  · rw [collect_of_unreadable hstep hnew]
    exact Or.inr ⟨e, rfl⟩
  · have hp : Page.ofFields (l token) = p := by
      rw [hpage, Cursor.settle_eq_page_iff] at hstep
      exact Option.some.inj (Except.ok.inj hstep.1)
    have hcursor : Cursor.after p = cursorBehind (l token) := by
      rw [← hp, Cursor.after, next_ofFields htokens, cursorBehind]
      cases nextOf (l token) <;> rfl
    rw [collect_of_page hstep hnew]
    simp only [Cursor.cursor_of_page hstep, hcursor]
    rcases hrest ((Cursor.before (value token)).advance l.inMemory project job calls).state with
      ⟨haul, h⟩ | ⟨e, h⟩
    · rw [h]
      exact Or.inl ⟨_, rfl⟩
    · rw [h]
      exact Or.inr ⟨e, rfl⟩

/-- **A walk in memory comes to an end** with as many calls as there are objects. -/
theorem settled_collect {token : Option Text} {n : Nat} (hends : l.Ends token n) {limit : Nat}
    (hlimit : n ≤ limit) (calls : List Call) :
    Settled (collect l.inMemory project job since limit (.before (value token)) calls).result := by
  induction hends generalizing limit calls with
  | last hlast =>
    obtain ⟨limit, rfl⟩ : ∃ k, limit = k + 1 := ⟨limit - 1, by omega⟩
    refine settled_step htokens project job since fun calls => ?_
    rw [cursorBehind, hlast, Script.collect_ended]
    exact Or.inl ⟨_, rfl⟩
  | more hmore _ ih =>
    obtain ⟨limit, rfl⟩ : ∃ k, limit = k + 1 := ⟨limit - 1, by omega⟩
    refine settled_step htokens project job since fun calls => ?_
    rw [cursorBehind, hmore]
    exact ih (by omega) calls

end InMemory

/-! ## §3. The listing over HTTP. -/

/-- The address `b` asks for the token that stands in the object under the token of `a`. -/
def Follows (l : Listing) (a b : Address) : Prop :=
  ∃ t, Fields.get "nextPageToken" (l a.pageToken?) = .text t ∧ b.pageToken? = some t

/-- The addresses asked name the tokens of the calls, the first of them none, and follow the
tokens of the listing. -/
structure Traced (l : Listing) (asked : List Address) (calls : List Call) : Prop where
  tokens : asked.map Address.pageToken? = calls.map fun call => call.token.text?
  first : ∀ a ∈ asked.head?, a.query = none
  chain : asked.IsChain l.Follows

/-- The token before which the walk stands is null at the start, and else the one in the object
that was asked last. -/
def Due (l : Listing) (token : Value) (asked : List Address) : Prop :=
  (asked = [] ∧ token = .null) ∨ ∃ a t, asked.getLast? = some a ∧ token = .text t
    ∧ nextOf (l a.pageToken?) = some t

section Traced

variable {l : Listing} (htokens : l.HasTokens) {token : Value} {asked : List Address}
include htokens

theorem Due.sendable (h : l.Due token asked) : Client.Sendable token := by
  rcases h with ⟨-, rfl⟩ | ⟨a, t, -, rfl, hnext⟩
  · decide
  · exact sendable_nextOf htokens _ t hnext

/-- The address of a request that is due names its token. -/
theorem Due.pageToken? (h : l.Due token asked) (a : Address) :
    ({ a with query := Client.queryOf token } : Address).pageToken? = token.text? := by
  have hsend := h.sendable htokens
  rcases h with ⟨-, rfl⟩ | ⟨_, t, -, rfl, -⟩
  · rfl
  · rcases hsend.1 with hnull | hscalar
    · exact absurd hnull (by simp [Value.isNull])
    · refine Client.pageToken?_queryOf a ?_
      exact List.all_eq_true.mp hscalar t List.mem_cons_self

theorem Traced.append {calls : List Call} (h : l.Traced asked calls) (hdue : l.Due token asked)
    (a : Address) (project job : Value) :
    l.Traced (asked ++ [{ a with query := Client.queryOf token }])
      (calls ++ [⟨project, job, token⟩]) := by
  have htoken := hdue.pageToken? htokens a
  refine ⟨?_, ?_, ?_⟩
  · rw [List.map_append, List.map_append, h.tokens, List.map_singleton, htoken]
    rfl
  · rcases hdue with ⟨rfl, rfl⟩ | ⟨b, t, hlast, -, -⟩
    · rintro _ ⟨⟩
      rfl
    · intro d hd
      refine h.first d ?_
      rwa [List.head?_append_of_ne_nil] at hd
      rintro rfl
      exact absurd hlast (by simp)
  · refine List.isChain_append.mpr ⟨h.chain, List.isChain_singleton _, ?_⟩
    rintro b hb _ ⟨⟩
    rcases hdue with ⟨rfl, -⟩ | ⟨b', t, hlast, rfl, hnext⟩
    · exact absurd hb (by simp)
    · rw [hlast] at hb
      obtain rfl := Option.some.inj hb
      exact ⟨t, get_of_nextOf hnext, htoken⟩

end Traced

section Served

variable {c : Client} {project job : Text} {l : Listing} {body : Option Text → Bytes}

/-- **Over HTTP and in memory a listing gives the same responses.** -/
theorem alike_served {a : Address} (ha : c.ListsAt project job a) (htokens : l.HasTokens)
    (hbody : ∀ token, Json.readOctets (body token) c.nesting = .ok (.object (l token))) :
    Alike (c.service (served body)) l.inMemory (.text project) (.text job)
      (fun token asked calls => l.Traced asked calls ∧ l.Due token asked) l.Traced := by
  -- a request that is due is sent, and answered with the object under its token
  have hserve : ∀ {token asked calls}, l.Traced asked calls ∧ l.Due token asked →
      c.service (served body) asked ⟨.text project, .text job, token⟩
        = { response := .ok (some (Page.ofFields (l token.text?)))
            state := asked ++ [{ a with query := Client.queryOf token }]
            log := Client.logger.record .debug
              (Client.report ⟨.text project, .text job, token⟩) none } := by
    rintro token asked calls ⟨-, hdue⟩
    have habsolute : ({ a with query := Client.queryOf token } : Address).isAbsolute = true :=
      ha.absolute
    have hout := Client.outcome_of_object habsolute (show Status.isSuccess 200 = true by decide)
      (hbody token.text?) none
    rw [ha.service_of_sendable _ _ (hdue.sendable htokens)]
    unfold served
    simp only [hdue.pageToken? htokens a, hout]
  refine ⟨?_, ?_, ?_, ?_⟩
  · intro token asked calls h
    rw [hserve h]
    rfl
  · intro token asked calls h
    rw [hserve h]
    exact h.1.append htokens h.2 a _ _
  · intro token asked calls page h hpage hnext
    rw [hserve h] at hpage ⊢
    obtain rfl : Page.ofFields (l token.text?) = page := Option.some.inj (Except.ok.inj hpage)
    refine ⟨h.1.append htokens h.2 a _ _, Or.inr ?_⟩
    rw [next_ofFields htokens] at hnext ⊢
    cases ht : nextOf (l token.text?) with
    | none =>
      rw [ht] at hnext
      exact absurd hnext (by decide)
    | some t =>
      refine ⟨_, t, List.getLast?_concat, rfl, ?_⟩
      rw [h.2.pageToken? htokens a]
      exact ht
  · exact fun h => h.1

/-- **A fetch gives the same over HTTP and in memory.**  Both give the same messages, or fail
with the same timestamp that cannot be decoded, with as many requests as calls; the first request
names no token, and each later one the next token of the object before. -/
theorem fetch_served (hc : c.CanList project job) (htokens : l.HasTokens)
    (hbody : ∀ token, Json.readOctets (body token) c.nesting = .ok (.object (l token))) {n : Nat}
    (hends : l.Ends none n) (since : Checkpoint) {limit : Nat} (hlimit : n ≤ limit) :
    let http := fetch (c.service (served body)) limit (.text project) (.text job) since []
    let memory := fetch l.inMemory limit (.text project) (.text job) since []
    http.result = memory.result
      ∧ Settled http.result
      ∧ http.state.length = memory.state.length
      ∧ http.state.map Address.pageToken? = memory.state.map (fun call => call.token.text?)
      ∧ (∀ a ∈ http.state.head?, a.query = none)
      ∧ http.state.IsChain l.Follows := by
  intro http memory
  obtain ⟨a, ha⟩ := hc.listsAt
  have hstart : l.Traced [] [] ∧ l.Due .null [] :=
    ⟨⟨rfl, fun a ha => absurd ha (by simp), List.isChain_nil⟩, Or.inl ⟨rfl, rfl⟩⟩
  obtain ⟨hresult, htraced⟩ := fetch_alike (alike_served ha htokens hbody) since limit hstart
  have hsettled : Settled memory.result := by
    show Settled (fetch _ _ _ _ _ _).result
    unfold fetch
    cases since.toInstant with
    | error e => exact Or.inr ⟨e, rfl⟩
    | ok start =>
      simp only [fetchSince_result]
      rcases settled_collect htokens (.text project) (.text job) start hends hlimit [] with
        ⟨haul, h⟩ | ⟨e, h⟩
      · rw [Cursor.start, show Value.null = value none from rfl, h]
        exact Or.inl ⟨_, rfl⟩
      · rw [Cursor.start, show Value.null = value none from rfl, h]
        exact Or.inr ⟨e, rfl⟩
  have hlength := congrArg List.length htraced.tokens
  rw [List.length_map, List.length_map] at hlength
  exact ⟨hresult, hresult ▸ hsettled, hlength, htraced.tokens, htraced.first, htraced.chain⟩

end Served

/-- A token with every mark that a query knows. -/
def markedToken : Text := "a+b&c=d%e f\u00e9"

/-- A listing of two objects, with that token between them. -/
def marked : Listing
  | none => [("jobMessages", .list [.object [("time", .object [("seconds", .int 5)])]]),
      ("nextPageToken", .text markedToken)]
  | some _ => [("jobMessages", .list [.object [("time", .object [("seconds", .int 4)])]])]

/-- The objects as bodies. -/
def markedBody : Option Text → Bytes
  | none => Utf8.encode ("\x7b\"jobMessages\":[\x7b\"time\":\x7b\"seconds\":5\x7d\x7d],"
      ++ "\"nextPageToken\":\"a+b&c=d%e f\u00e9\"\x7d")
  | some _ => Utf8.encode "\x7b\"jobMessages\":[\x7b\"time\":\x7b\"seconds\":4\x7d\x7d]\x7d"

theorem fetch_served_marked :
    (fetch ((Client.ofUrl Settings.defaultUrl).service (served markedBody)) 2 (.text "p")
        (.text "j") .start []).result
      = (fetch (inMemory marked) 2 (.text "p") (.text "j") .start []).result
    ∧ (fetch ((Client.ofUrl Settings.defaultUrl).service (served markedBody)) 2 (.text "p")
        (.text "j") .start []).state.map Address.pageToken? = [none, some markedToken] := by
  have htokens : HasTokens marked := by
    intro token
    cases token with
    | none => exact Or.inr ⟨markedToken, rfl, by decide⟩
    | some t => exact Or.inl rfl
  have hbody : ∀ token, Json.readOctets (markedBody token) = .ok (.object (marked token)) := by
    intro token
    cases token with
    | none =>
      rw [markedBody, Json.readOctets_encode (by decide)]
      decide +kernel
    | some t =>
      show Json.readOctets (markedBody (some [])) = .ok (.object (marked (some [])))
      rw [markedBody, Json.readOctets_encode (by decide)]
      decide +kernel
  have hends : Ends marked none 2 := .more (t := markedToken) rfl (.last rfl)
  obtain ⟨hresult, -, -, hasked, -, -⟩ := fetch_served Client.canList_default htokens hbody hends
    .start (Nat.le_refl 2)
  exact ⟨hresult, hasked.trans (by decide +kernel)⟩

end Listing

end JobWatch
