/-
  JobWatch.Proofs.PageCuts
  ────────────────────────
  **HOW A LISTING IS CUT INTO PAGES.**

  A service may cut one array of entries into pages as it likes.  Over HTTP
  the cuts are not seen in what a fetch gives, if every page but the last has
  an entry that is an object:  entries of other kinds are dropped before the
  walk looks for messages, and a page that is left without any ends it.

      Cuts               — replies that write an array of entries page by page
      walk_of_cuts       — the walk over the replies has the messages of the
                           array, whatever the cuts
      fetch_of_cuts      — the fetch is the one from the whole array
      fetch_eq_of_cuts   — two ways to cut it give the same
      fetch_of_no_object — what lies behind a page without objects is lost
-/
import JobWatch.Proofs.ListingFailures
import JobWatch.Proofs.WalkSimulation

namespace JobWatch

/-! ## §1. Cuts. -/

/-- The messages among some entries. -/
def messagesAmong (entries : List Value) : List Message :=
  (entries.filterMap Page.entry?).map Message.ofFields

theorem messagesAmong_append (xs ys : List Value) :
    messagesAmong (xs ++ ys) = messagesAmong xs ++ messagesAmong ys := by
  unfold messagesAmong
  rw [List.filterMap_append, List.map_append]

/-- Some entry is an object. -/
def HasObject (entries : List Value) : Prop := ∃ fields, Value.object fields ∈ entries

theorem messagesAmong_ne_nil {entries : List Value} (h : HasObject entries) :
    messagesAmong entries ≠ [] := by
  obtain ⟨fields, hfields⟩ := h
  have hmem : Message.ofFields fields ∈ messagesAmong entries :=
    List.mem_map_of_mem (List.mem_filterMap.mpr ⟨_, hfields, rfl⟩)
  exact List.ne_nil_of_mem hmem

/-- `Cuts nesting replies pages`: the replies are successes, each with an object, nested no
deeper than `nesting`, that has a page of entries, none of them empty; all but the last have a
next token for which a request can be sent. -/
inductive Cuts (nesting : Nat) : List Reply → List (List Value) → Prop
  /-- The last page has no next token. -/
  | last {body : Bytes} {reason : Option Text} {fields : Fields} {entries : List Value}
      (hbody : Json.readOctets body nesting = .ok (.object fields))
      (hentries : Fields.get "jobMessages" fields = .list entries) (hne : entries ≠ [])
      (hnext : Fields.get "nextPageToken" fields = .null) :
      Cuts nesting [.answer 200 body reason] [entries]
  /-- Any other page has one. -/
  | more {body : Bytes} {reason : Option Text} {fields : Fields} {entries : List Value} {t : Text}
      {replies : List Reply} {pages : List (List Value)}
      (hbody : Json.readOctets body nesting = .ok (.object fields))
      (hentries : Fields.get "jobMessages" fields = .list entries) (hne : entries ≠ [])
      (hnext : Fields.get "nextPageToken" fields = .text t) (ht : t ≠ [])
      (hsend : Client.Sendable (.text t)) (rest : Cuts nesting replies pages) :
      Cuts nesting (.answer 200 body reason :: replies) (entries :: pages)

theorem Cuts.ne_nil {nesting : Nat} {replies : List Reply} {pages : List (List Value)}
    (h : Cuts nesting replies pages) : pages ≠ [] := by
  cases h <;> simp

/-! ## §2. The walk over the replies. -/

theorem content_ofFields {fields : Fields} {entries : List Value}
    (h : Fields.get "jobMessages" fields = .list entries) :
    (Page.ofFields fields).content = messagesAmong entries := by
  unfold Page.content Page.ofFields
  simp only [h]
  rfl

section Walk

variable {c : Client} {project job : Text} {a : Address} (h : c.ListsAt project job a)
include h

/-- A step to a page of entries settles with that page. -/
theorem advance_of_page {token : Value} (hs : Client.Sendable token) {body : Bytes}
    {fields : Fields} (hbody : Json.readOctets body c.nesting = .ok (.object fields))
    (reason : Option Text) (replies : List Reply) (sent : List Address) :
    ((Cursor.before token).advance (c.service Exchange.send) (.text project) (.text job)
        ⟨.answer 200 body reason :: replies, sent⟩)
      = { page := (Cursor.settle (.ok (some (Page.ofFields fields)))).1
          cursor := (Cursor.settle (.ok (some (Page.ofFields fields)))).2
          state := ⟨replies, sent ++ [{ a with query := Client.queryOf token }]⟩
          log := Client.logger.record .debug
            (Client.report ⟨.text project, .text job, token⟩) none } := by
  have habsolute : ({ a with query := Client.queryOf token } : Address).isAbsolute = true :=
    h.absolute
  have hout := Client.outcome_of_object habsolute (show Status.isSuccess 200 = true by decide)
    hbody reason
  have hnth : Reply.nth (.answer 200 body reason :: replies) 0 = .answer 200 body reason := rfl
  rw [Client.advance_of_sendable h hs, hnth, hout]
  rfl

/-- **The walk over the replies has the messages of the whole array**, if every page but the last
has an object. -/
theorem walk_of_cuts {replies : List Reply} {pages : List (List Value)}
    (hcuts : Cuts c.nesting replies pages)
    (hobjects : ∀ entries ∈ pages.dropLast, HasObject entries)
    {token : Value} (hs : Client.Sendable token) (sent : List Address) :
    ∃ walked s, Walk (c.service Exchange.send) (.text project) (.text job) (.before token)
        ⟨replies, sent⟩ walked s
      ∧ messagesOn walked = messagesAmong pages.flatten ∧ walked.length ≤ replies.length := by
  induction hcuts generalizing token sent with
  | @last body reason fields entries hbody hentries hne hnext =>
    have hstep := advance_of_page h hs hbody reason [] sent
    have hcontent := content_ofFields hentries
    have hnone : (Page.ofFields fields).next = .null := by
      unfold Page.ofFields
      simp only [hnext]
      rfl
    rw [List.flatten_singleton, ← hcontent]
    by_cases hempty : (Page.ofFields fields).content = []
    -- the last page may have no messages; then the step to it brings nothing
    · refine ⟨[], _, Walk.stop ?_, hempty.symm, Nat.zero_le _⟩
      rw [hstep]
      exact Cursor.settle_eq_none_iff.mpr (Or.inr ⟨_, rfl, hempty⟩)
    · have hpage : ((Cursor.before token).advance (c.service Exchange.send) (.text project)
          (.text job) ⟨[.answer 200 body reason], sent⟩).page
          = .ok (some (Page.ofFields fields)) := by
        rw [hstep]
        exact Cursor.settle_eq_page_iff.mpr ⟨rfl, hempty⟩
      have hcursor := Cursor.cursor_of_page hpage
      rw [Cursor.after, hnone, if_pos (show Value.null.isNull = true from rfl)] at hcursor
      refine ⟨[Page.ofFields fields], _, Walk.page hpage (Walk.stop (by rw [hcursor]; rfl)), ?_,
        Nat.le_refl 1⟩
      rw [messagesOn_cons]
      exact List.append_nil _
  | @more body reason fields entries t replies pages hbody hentries hne hnext ht hsend hrest ih =>
    have hstep := advance_of_page h hs hbody reason replies sent
    have hcontent := content_ofFields hentries
    rw [List.dropLast_cons_of_ne_nil hrest.ne_nil] at hobjects
    have hmessages := messagesAmong_ne_nil (hobjects entries List.mem_cons_self)
    have htoken : (Page.ofFields fields).next = .text t := by
      unfold Page.ofFields
      simp only [hnext, Value.holds]
      cases t with
      | nil => exact absurd rfl ht
      | cons d t => rfl
    have hpage : ((Cursor.before token).advance (c.service Exchange.send) (.text project)
        (.text job) ⟨.answer 200 body reason :: replies, sent⟩).page
        = .ok (some (Page.ofFields fields)) := by
      rw [hstep]
      exact Cursor.settle_eq_page_iff.mpr ⟨rfl, by rwa [hcontent]⟩
    have hcursor := Cursor.cursor_of_page hpage
    rw [Cursor.after, htoken, if_neg (by simp [Value.isNull])] at hcursor
    obtain ⟨walked, s, hwalk, hwalked, hlength⟩ :=
      ih (fun e he => hobjects e (List.mem_cons_of_mem _ he)) hsend
        (sent ++ [{ a with query := Client.queryOf token }])
    refine ⟨Page.ofFields fields :: walked, s, Walk.page hpage ?_, ?_, ?_⟩
    · rw [hcursor, hstep]
      exact hwalk
    · rw [messagesOn_cons, hcontent, hwalked, List.flatten_cons, messagesAmong_append]
    · rw [List.length_cons, List.length_cons]
      omega

end Walk

/-! ## §3. The fetch from the replies. -/

/-- Every timestamp in the array can be decoded, whether or not it is known then. -/
def Decodable (entries : List Value) : Prop :=
  ∀ fields, Value.object fields ∈ entries → (Message.ofFields fields).Readable

theorem Decodable.readable {entries : List Value} (h : Decodable entries) :
    ∀ m ∈ messagesAmong entries, m.Readable := by
  intro m hm
  obtain ⟨fields, hfields, rfl⟩ := List.mem_map.mp hm
  obtain ⟨entry, hentry, hsome⟩ := List.mem_filterMap.mp hfields
  cases entry with
  | object f =>
    obtain rfl := Option.some.inj hsome
    exact h f hentry
  | _ => exact absurd hsome (by simp [Page.entry?])

section Fetch

variable {c : Client} {project job : Text} (hc : c.CanList project job)
include hc

/-- **The fetch is the one from the whole array.** -/
theorem fetch_of_cuts {replies : List Reply} {pages : List (List Value)}
    (hcuts : Cuts c.nesting replies pages)
    (hobjects : ∀ entries ∈ pages.dropLast, HasObject entries)
    (hdecodable : Decodable pages.flatten) {limit : Nat} (hlimit : replies.length < limit)
    (since : Checkpoint) :
    (fetch (c.service Exchange.send) limit (.text project) (.text job) since
        ⟨replies, []⟩).result
      = match since.toInstant with
        | .error e => .error (.number e)
        | .ok start => .ok ((byInstant ((messagesAmong pages.flatten).filterMap
            (Message.timedAfter? start))).map Prod.snd) := by
  obtain ⟨a, ha⟩ := hc.listsAt
  have hfirst : Client.Sendable .null := by decide
  obtain ⟨walked, s, hwalk, hwalked, hlength⟩ := walk_of_cuts ha hcuts hobjects hfirst []
  have hread := hdecodable.readable
  rw [← hwalked] at hread ⊢
  unfold fetch
  cases since.toInstant with
  | error e => rfl
  | ok start =>
    simp only [fetchSince_result]
    rw [Cursor.start, collect_of_walk start hwalk hread (by omega)]
    rfl

/-- **How the array is cut into pages does not matter** to a fetch, if every page but the last
has an entry that is an object, and every timestamp can be decoded.  The fetch gives every message
of the array that is later than the checkpoint. -/
theorem fetch_eq_of_cuts {replies replies' : List Reply} {pages pages' : List (List Value)}
    (hcuts : Cuts c.nesting replies pages) (hcuts' : Cuts c.nesting replies' pages')
    (hsame : pages.flatten = pages'.flatten) (hdecodable : Decodable pages.flatten)
    (hobjects : ∀ entries ∈ pages.dropLast, HasObject entries)
    (hobjects' : ∀ entries ∈ pages'.dropLast, HasObject entries) {limit : Nat}
    (hlimit : replies.length < limit) (hlimit' : replies'.length < limit) (since : Checkpoint) :
    let result := (fetch (c.service Exchange.send) limit (.text project) (.text job) since
      ⟨replies, []⟩).result
    let result' := (fetch (c.service Exchange.send) limit (.text project) (.text job) since
      ⟨replies', []⟩).result
    result = result' ∧ match since.toInstant with
      | .error e => result = .error (.number e)
      | .ok start => ∃ ms, result = .ok ms ∧ StablySorted Message.rank
          ((messagesAmong pages.flatten).filter (Message.isAfter start)) ms := by
  intro result result'
  have hresult : result = _ := fetch_of_cuts hc hcuts hobjects hdecodable hlimit since
  have hresult' : result' = _ :=
    fetch_of_cuts hc hcuts' hobjects' (hsame ▸ hdecodable) hlimit' since
  refine ⟨?_, ?_⟩
  · rw [hresult, hresult', hsame]
  · rw [hresult]
    cases since.toInstant with
    | error e => rfl
    | ok start =>
      refine ⟨_, rfl, ?_⟩
      rw [← map_snd_filterMap_timedAfter?]
      exact stablySorted_byInstant _ fun x => faithful_of_mem_filterMap

/-- **What lies behind a page without objects is lost**: such a page ends the walk. -/
theorem fetch_of_no_object {replies : List Reply} {entries : List Value}
    {pages : List (List Value)} (hcuts : Cuts c.nesting replies (entries :: pages))
    (hnone : messagesAmong entries = []) {limit : Nat} (hlimit : 0 < limit) {since : Checkpoint}
    {start : Instant} (hsince : since.toInstant = .ok start) :
    (fetch (c.service Exchange.send) limit (.text project) (.text job) since
        ⟨replies, []⟩).result = .ok [] := by
  obtain ⟨a, ha⟩ := hc.listsAt
  have hfirst : Client.Sendable .null := by decide
  obtain ⟨limit, rfl⟩ : ∃ n, limit = n + 1 := ⟨limit - 1, by omega⟩
  -- the first reply has the page, whether or not others follow
  have hstop : (Cursor.start.advance (c.service Exchange.send) (.text project) (.text job)
      ⟨replies, []⟩).page = .ok none := by
    cases hcuts with
    | last hbody hentries =>
      rw [Cursor.start, advance_of_page ha hfirst hbody]
      exact Cursor.settle_eq_none_iff.mpr
        (Or.inr ⟨_, rfl, (content_ofFields hentries).trans hnone⟩)
    | more hbody hentries =>
      rw [Cursor.start, advance_of_page ha hfirst hbody]
      exact Cursor.settle_eq_none_iff.mpr
        (Or.inr ⟨_, rfl, (content_ofFields hentries).trans hnone⟩)
  unfold fetch
  rw [hsince]
  simp only [fetchSince_result, collect_of_stop hstop]
  show Except.ok ((byInstant []).map Prod.snd) = _
  rw [byInstant, List.mergeSort_nil]
  rfl

end Fetch

/-! ## §4. An entry and a number. -/

/-- An object with the given entries, and what stands behind them. -/
def pageBody (entries behind : Text) : Bytes := Utf8.encode
  (Text.ofString "\x7b\"jobMessages\":[" ++ entries ++ Text.ofString "]" ++ behind
    ++ Text.ofString "\x7d")

/-- The object as a success. -/
def pageReply (entries behind : Text) : Reply := .answer 200 (pageBody entries behind) none

/-- An entry of the fifth second, as it is written. -/
def entryText : Text := "\x7b\"time\":\x7b\"seconds\":5\x7d\x7d"

/-- The entry as it is read. -/
def entryFields : Fields := [("time", .object [("seconds", .int 5)])]

/-- A next token, as it is written. -/
def nextText : Text := ",\"nextPageToken\":\"t\""

theorem decodable_entry {entries : List Value}
    (h : ∀ v ∈ entries, v = .object entryFields ∨ v = .int 1) : Decodable entries := by
  intro fields hfields
  rcases h _ hfields with hv | hv
  · obtain rfl := Value.object.inj hv
    exact ⟨_, Message.timestamp_saidAt (by decide)⟩
  · exact absurd hv (by simp)

/-- The entry and the number may stand on one page or on two. -/
theorem fetch_eq_of_cuts_entry :
    (fetch ((Client.ofUrl Settings.defaultUrl).service Exchange.send) 3 (.text "p") (.text "j")
        .start ⟨[pageReply entryText nextText, pageReply "1" []], []⟩).result
      = (fetch ((Client.ofUrl Settings.defaultUrl).service Exchange.send) 3 (.text "p")
          (.text "j") .start ⟨[pageReply (entryText ++ Text.ofString ",1") []], []⟩).result := by
  have hlast : Json.readOctets (pageBody "1" [])
      = .ok (.object [("jobMessages", .list [.int 1])]) := by
    rw [pageBody, Json.readOctets_encode (by decide)]
    decide +kernel
  have hfirst : Json.readOctets (pageBody entryText nextText)
      = .ok (.object [("jobMessages", .list [.object entryFields]),
          ("nextPageToken", .text "t")]) := by
    rw [pageBody, Json.readOctets_encode (by decide)]
    decide +kernel
  have hwhole : Json.readOctets (pageBody (entryText ++ Text.ofString ",1") [])
      = .ok (.object [("jobMessages", .list [.object entryFields, .int 1])]) := by
    rw [pageBody, Json.readOctets_encode (by decide)]
    decide +kernel
  have hcuts : Cuts Json.usualNesting [pageReply entryText nextText, pageReply "1" []]
      [[.object entryFields], [.int 1]] :=
    .more hfirst rfl (by simp) rfl (by decide) (by decide) (.last hlast rfl (by simp) rfl)
  have hcuts' : Cuts Json.usualNesting [pageReply (entryText ++ Text.ofString ",1") []]
      [[.object entryFields, .int 1]] := .last hwhole rfl (by simp) rfl
  have hdecodable : Decodable [.object entryFields, .int 1] := decodable_entry (by simp)
  refine (fetch_eq_of_cuts Client.canList_default hcuts hcuts' rfl hdecodable ?_ ?_ (by decide)
    (by decide) .start).1
  · intro entries hentries
    obtain rfl := List.mem_singleton.mp hentries
    exact ⟨entryFields, List.mem_cons_self⟩
  · exact fun entries hentries => absurd hentries List.not_mem_nil

/-- A page of the number alone, in front of the page of the entry, ends the walk: the entry is
given from one page, and not from two. -/
theorem fetch_ne_of_cuts_entry :
    Cuts Json.usualNesting [pageReply "1" nextText, pageReply entryText []]
        [[.int 1], [.object entryFields]]
      ∧ Cuts Json.usualNesting [pageReply (Text.ofString "1," ++ entryText) []]
        [[.int 1, .object entryFields]]
      ∧ Decodable [.int 1, .object entryFields]
      ∧ (fetch ((Client.ofUrl Settings.defaultUrl).service Exchange.send) 3 (.text "p")
          (.text "j") .start ⟨[pageReply "1" nextText, pageReply entryText []], []⟩).result
        = .ok []
      ∧ (fetch ((Client.ofUrl Settings.defaultUrl).service Exchange.send) 3 (.text "p")
          (.text "j") .start ⟨[pageReply (Text.ofString "1," ++ entryText) []], []⟩).result
        = .ok [Message.ofFields entryFields] := by
  have hfirst : Json.readOctets (pageBody "1" nextText)
      = .ok (.object [("jobMessages", .list [.int 1]), ("nextPageToken", .text "t")]) := by
    rw [pageBody, Json.readOctets_encode (by decide)]
    decide +kernel
  have hlast : Json.readOctets (pageBody entryText [])
      = .ok (.object [("jobMessages", .list [.object entryFields])]) := by
    rw [pageBody, Json.readOctets_encode (by decide)]
    decide +kernel
  have hwhole : Json.readOctets (pageBody (Text.ofString "1," ++ entryText) [])
      = .ok (.object [("jobMessages", .list [.int 1, .object entryFields])]) := by
    rw [pageBody, Json.readOctets_encode (by decide)]
    decide +kernel
  have hcuts : Cuts Json.usualNesting [pageReply "1" nextText, pageReply entryText []]
      [[.int 1], [.object entryFields]] :=
    .more hfirst rfl (by simp) rfl (by decide) (by decide) (.last hlast rfl (by simp) rfl)
  have hcuts' : Cuts Json.usualNesting [pageReply (Text.ofString "1," ++ entryText) []]
      [[.int 1, .object entryFields]] := .last hwhole rfl (by simp) rfl
  have hdecodable : Decodable [.int 1, .object entryFields] := decodable_entry (by simp)
  refine ⟨hcuts, hcuts', hdecodable, ?_, ?_⟩
  · have hsince : Checkpoint.start.toInstant = .ok (Instant.ofMillis 0) := rfl
    exact fetch_of_no_object Client.canList_default hcuts rfl (by decide) hsince
  · have hnew : (messagesAmong [[.int 1, .object entryFields]].flatten).filterMap
        (Message.timedAfter? (Instant.ofMillis 0))
        = [(⟨5, 0, by decide⟩, Message.ofFields entryFields)] := rfl
    rw [fetch_of_cuts Client.canList_default hcuts' (by simp) hdecodable (by decide)]
    show Except.ok ((byInstant ((messagesAmong [[.int 1, .object entryFields]].flatten).filterMap
      (Message.timedAfter? (Instant.ofMillis 0)))).map Prod.snd) = _
    rw [hnew, byInstant, List.mergeSort_singleton]
    rfl

end JobWatch
