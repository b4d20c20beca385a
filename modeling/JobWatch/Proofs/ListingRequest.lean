/-
  JobWatch.Proofs.ListingRequest
  ──────────────────────────────
  **REQUESTS FOR THE PAGES OF A LISTING.**

  All requests for the messages of a job ask one address, with a query that
  names the page.  Whether a request can be sent depends on the token alone,
  once the base and the identifiers are good; and what a service decodes from
  the query is the token that was asked for:

      query_eq         — the query for a token, or why there is none
      listsAt_of_read  — which address the requests ask
      CanList.listsAt  — one address, with the query for the token
      pageToken?_queryOf
                       — the service decodes the token that was asked for
-/
import JobWatch.Http.Client
import JobWatch.Proofs.AddressNormal
import JobWatch.Proofs.TextPieces
import JobWatch.Settings

namespace JobWatch

/-! ## §1. Decoding a field of a query. -/

/-- The value of the first field with this name in a query. -/
def Percent.field? (name query : Text) : Option Text :=
  (query.splitAt '&').findSome? fun part =>
    match part.cut? '=' with
    | none => none
    | some (n, value) => if unform n = some name then unform value else none

/-- The token in the query of an address. -/
def Address.pageToken? (a : Address) : Option Text := a.query.bind (Percent.field? "pageToken")

/-- **The field of a query decodes to its value.** -/
theorem Percent.field?_form {name t : Text} (hname : name.isScalar = true)
    (ht : t.isScalar = true) :
    field? name (form name ++ CodePoint.ofChar '=' :: form t) = some t := by
  have hsplit : Text.splitAt '&' (form name ++ CodePoint.ofChar '=' :: form t)
      = [form name ++ CodePoint.ofChar '=' :: form t] := by
    refine Text.splitWhere_of_none fun c hc => decide_eq_false ?_
    rcases List.mem_append.mp hc with hc | hc
    · exact ne_of_mem_form hc (by decide) (by decide)
    rcases List.mem_cons.mp hc with rfl | hc
    · decide
    · exact ne_of_mem_form hc (by decide) (by decide)
  have hcut := Text.cut?_append (c := CodePoint.ofChar '=')
    (fun d hd => ne_of_mem_form (t := name) hd (by decide) (by decide)) (form t)
  unfold field?
  rw [hsplit, List.findSome?_cons, hcut]
  simp only [unform_form hname, unform_form ht, if_true]

namespace Client

/-! ## §2. Tokens as queries. -/

/-- The query that names a page by its token. -/
def queryText (token : Value) : Text :=
  Text.join ['&'] ((parameters token).map fun t => Text.ofString "pageToken=" ++ Percent.form t)

/-- The query for a token, none for the first page. -/
def queryOf (token : Value) : Option Text := if token.isNull then none else some (queryText token)

/-- A request for a page can be sent: its token is null or can be encoded, and the query for it
is not too long. -/
def Sendable (token : Value) : Prop :=
  (token.isNull = true ∨ (parameters token).all Text.isScalar = true)
    ∧ ((queryOf token).getD []).length ≤ Address.lengthLimit

instance (token : Value) : Decidable (Sendable token) :=
  inferInstanceAs (Decidable ((_ ∨ _) ∧ _))

theorem mapM_form? (ts : List Text) :
    ts.mapM Percent.form? = if ts.all Text.isScalar then some (ts.map Percent.form) else none := by
  induction ts with
  | nil => rfl
  | cons t ts ih =>
    rw [List.mapM_cons, ih, Percent.form?, List.all_cons]
    by_cases ht : t.isScalar = true
    · rw [if_pos ht, ht, Bool.true_and]
      by_cases hts : ts.all Text.isScalar = true
      · rw [if_pos hts, if_pos hts]
        rfl
      · rw [if_neg hts, if_neg hts]
        rfl
    · rw [if_neg ht, Bool.not_eq_true _ |>.mp ht, Bool.false_and]
      rfl

/-- **The query for a token**, or why there is none. -/
theorem query_eq (token : Value) :
    query token = if token.isNull ∨ (parameters token).all Text.isScalar then .ok (queryOf token)
      else .error .unencodable := by
  unfold query queryOf
  by_cases hnull : token.isNull = true
  · rw [if_pos hnull, if_pos hnull, if_pos (Or.inl hnull)]
  rw [if_neg hnull, if_neg hnull, mapM_form?]
  by_cases hscalar : (parameters token).all Text.isScalar = true
  · rw [if_pos hscalar, if_pos (Or.inr hscalar)]
    show Except.ok (some (Text.join ['&'] (((parameters token).map Percent.form).map _))) = _
    rw [List.map_map]
    rfl
  · rw [if_neg hscalar, if_neg (by simp [hnull, hscalar])]

/-- What may stand in a query unescaped. -/
abbrev keptInQuery : CodePoint → Bool := Percent.keeps Component.barredInQuery

theorem keptInQuery_of_isUnreserved {c : CodePoint} (h : Percent.isUnreserved c = true) :
    keptInQuery c = true := Percent.keeps_of_isUnreserved (by decide) h

/-- **A query of form values needs no escaping in an address.** -/
theorem escaped_queryText (token : Value) : Percent.Escaped keptInQuery (queryText token) := by
  refine .join (by decide) (by decide) fun t ht => ?_
  obtain ⟨value, -, rfl⟩ := List.mem_map.mp ht
  have hname : Percent.form (Text.ofString "pageToken") = Text.ofString "pageToken" := by decide
  have hform := fun t => Percent.Escaped.form (fun _ => keptInQuery_of_isUnreserved)
    (show keptInQuery (CodePoint.ofChar '+') = true by decide) t
  have hfront : Percent.Escaped keptInQuery (Text.ofString "pageToken=") := by
    have hequals : Percent.Escaped keptInQuery [CodePoint.ofChar '='] :=
      .plain (by decide) (by decide) .nil
    have hboth := (hform (Text.ofString "pageToken")).append hequals
    rwa [hname] at hboth
  exact hfront.append (hform value)

theorem escaped_queryOf (token : Value) :
    ∀ q ∈ queryOf token, Percent.Escaped keptInQuery q := by
  intro q hq
  unfold queryOf at hq
  split at hq
  · exact absurd hq (by simp)
  · rw [← Option.some.inj hq]
    exact escaped_queryText token

theorem queryOf_text (t : Text) :
    queryOf (.text t) = some (Text.ofString "pageToken=" ++ Percent.form t) := rfl

/-- **A service decodes the token that was asked for.** -/
theorem pageToken?_queryOf (a : Address) {t : Text} (h : t.isScalar = true) :
    ({ a with query := queryOf (.text t) } : Address).pageToken? = some t := by
  have hform : Text.ofString "pageToken=" ++ Percent.form t
      = Percent.form (Text.ofString "pageToken") ++ CodePoint.ofChar '=' :: Percent.form t := by
    have hfront : Text.ofString "pageToken="
        = Percent.form (Text.ofString "pageToken") ++ [CodePoint.ofChar '='] := by decide
    rw [hfront, List.append_assoc]
    rfl
  show (queryOf (.text t)).bind (Percent.field? "pageToken") = some t
  rw [queryOf_text, Option.bind_some, hform]
  exact Percent.field?_form (by decide) h

/-! ## §3. The address of the requests. -/

/-- Where the messages of a job are listed, behind the base. -/
def resource (project job : Text) : Text :=
  Text.ofString "/v1b3/projects/" ++ Percent.encode project ++ Text.ofString "/jobs/"
    ++ Percent.encode job ++ Text.ofString "/messages"

/-- **The messages of a job can be listed**: a request can be sent to the base of the client, the
identifiers can be encoded, and with them the address is not too long, neither as a whole nor in
its parts once they are in normal form. -/
structure CanList (c : Client) (project job : Text) : Prop where
  base_scalar : c.base.isScalar = true
  base_asked : ∃ a b, Address.read c.base = .ok a ∧ a.isAbsolute = true
    ∧ a.withQuery none = .ok b ∧ b.isAbsolute = true ∧ b.host.all CodePoint.isAscii = true
  project_scalar : project.isScalar = true
  job_scalar : job.isScalar = true
  url_fits : (c.base ++ resource project job).length ≤ Address.lengthLimit
  parts_fit : ∀ a, Address.read (c.base ++ resource project job) = .ok a →
    a.path.length ≤ Address.lengthLimit ∧ (a.fragment.getD []).length ≤ Address.lengthLimit

theorem resource_head (project job : Text) :
    ∃ rest, resource project job = CodePoint.ofChar '/' :: rest := ⟨_, rfl⟩

/-- A character of the resource is visible, and opens neither a query nor a fragment. -/
theorem mem_resource {project job : Text} {c : CodePoint} (h : c ∈ resource project job) :
    Address.isVisible c = true ∧ ([0x3F, 0x23] : List Nat).contains c.val = false := by
  have hmark : ∀ c, Percent.isEncodingMark c = true →
      Address.isVisible c = true ∧ ([0x3F, 0x23] : List Nat).contains c.val = false := by
    intro c hc
    refine ⟨Address.isVisible_of_isEncodingMark hc, ?_⟩
    cases hstop : ([0x3F, 0x23] : List Nat).contains c.val with
    | false => rfl
    | true =>
      simp only [List.contains_cons, List.contains_nil, Bool.or_false, Bool.or_eq_true,
        beq_iff_eq] at hstop
      rcases hstop with h | h
      · obtain rfl := Address.eq_ofChar_of_val (m := '?') h
        exact absurd hc (by decide)
      · obtain rfl := Address.eq_ofChar_of_val (m := '#') h
        exact absurd hc (by decide)
  have hword : ∀ word : Text, (∀ c ∈ word, Percent.isEncodingMark c = true
      ∨ c = CodePoint.ofChar '/') → ∀ c ∈ word,
      Address.isVisible c = true ∧ ([0x3F, 0x23] : List Nat).contains c.val = false := by
    intro word hw c hc
    rcases hw c hc with h | rfl
    · exact hmark c h
    · decide
  unfold resource at h
  simp only [List.mem_append] at h
  rcases h with (((h | h) | h) | h) | h
  · exact hword _ (by decide) c h
  · exact hmark c (Percent.isEncodingMark_of_mem_encode h)
  · exact hword _ (by decide) c h
  · exact hmark c (Percent.isEncodingMark_of_mem_encode h)
  · exact hword _ (by decide) c h

section CanList

variable {c : Client} {project job : Text}

theorem messagesUrl_of_scalar (c : Client) (hproject : project.isScalar = true)
    (hjob : job.isScalar = true) :
    c.messagesUrl (.text project) (.text job) = .ok (c.base ++ resource project job) := by
  unfold messagesUrl segment Percent.encode?
  simp only [if_pos hproject, if_pos hjob, resource, List.append_assoc]

/-- Why no request can be sent for a token that cannot be encoded, or is too long. -/
def refusal (token : Value) : Failure :=
  if (parameters token).all Text.isScalar then .invalidUrl else .unencodable

/-- What can be read as an address is the address. -/
theorem addressed_eq_ok_iff {α : Type} {x : Except AddressError α} {a : α} :
    addressed x = .ok a ↔ x = .ok a := by
  cases x with
  | ok b => simp [addressed]
  | error e => cases e <;> simp [addressed]

/-- All requests for a listing ask the address `a`, with the query for their token. -/
structure ListsAt (c : Client) (project job : Text) (a : Address) : Prop where
  absolute : a.isAbsolute = true
  request : ∀ token, c.request ⟨.text project, .text job, token⟩
    = if Sendable token then .ok { a with query := queryOf token } else .error (refusal token)

/-- When the base and what is written behind it are read as addresses of one host, all requests ask
the second one in its normal form. -/
theorem listsAt_of_read {a b : Address} (ha : a.isAbsolute = true)
    (hwith : a.withQuery none = .ok b) (hb : b.isAbsolute = true)
    (hascii : b.host.all CodePoint.isAscii = true) (hproject : project.isScalar = true)
    (hjob : job.isScalar = true) {path : Text} {old fragment : Option Text}
    (hurl : Address.read (c.base ++ resource project job)
      = .ok { a with path, query := old, fragment })
    (hrooted : Address.Rooted path) (hpath : ∀ d ∈ path, Address.isVisible d = true)
    (hfragment : ∀ d ∈ fragment.getD [], Address.isVisible d = true)
    (hpathFits : path.length ≤ Address.lengthLimit)
    (hfragmentFits : (fragment.getD []).length ≤ Address.lengthLimit) :
    c.ListsAt project job { b with
      path := Percent.quote (Percent.keeps Component.barredInPath) (Address.normalPath path)
      fragment := fragment.map (Percent.quote (Percent.keeps Component.barredInFragment)) } := by
  refine ⟨hb, fun token => ?_⟩
  -- the address is read and completed as it is, so the query alone decides
  have hcompleted : Address.completed { a with path, query := old, fragment }
      = .ok { a with path, query := old, fragment } := if_pos ha
  have hrequest : c.request ⟨.text project, .text job, token⟩
      = (query token).bind fun q =>
          (addressed (Address.withQuery { a with path, query := old, fragment } q)).bind fun d =>
            if d.host.all CodePoint.isAscii then .ok d else .error .unencodable := by
    unfold request
    rw [messagesUrl_of_scalar c hproject hjob]
    simp only [bind, Except.bind, hurl, addressed, hcompleted]
    rfl
  have hwithQuery := Address.withQuery_behind hwith hb old hrooted hpath hpathFits hfragment
    hfragmentFits (escaped_queryOf token)
  rw [hrequest, query_eq]
  by_cases hencodes : token.isNull = true ∨ (parameters token).all Text.isScalar = true
  · rw [if_pos hencodes]
    show (addressed (Address.withQuery { a with path, query := old, fragment }
      (queryOf token))).bind _ = _
    rw [hwithQuery]
    by_cases hfits : ((queryOf token).getD []).length ≤ Address.lengthLimit
    · rw [if_pos hfits, if_pos ⟨hencodes, hfits⟩]
      exact if_pos hascii
    · rw [if_neg hfits, if_neg fun hsend => hfits hsend.2]
      -- a null token has no query that could be too long
      rcases hencodes with hnull | hscalar
      · exact absurd (Nat.zero_le _) (by rwa [queryOf, if_pos hnull] at hfits)
      · rw [refusal, if_pos hscalar]
        rfl
  · rw [if_neg hencodes, if_neg fun hsend => hencodes hsend.1, refusal,
      if_neg fun hscalar => hencodes (Or.inr hscalar)]
    rfl

/-- **The requests for a listing ask one address.**  Whether they can be sent depends on the
token alone. -/
theorem CanList.listsAt (h : c.CanList project job) : ∃ a, c.ListsAt project job a := by
  obtain ⟨a, b, hread, ha, hwith, hb, hascii⟩ := h.base_asked
  obtain ⟨path, old, fragment, hurl, hrooted, hpath, hfragment⟩ := Address.read_append hread ha
    h.base_scalar (resource_head project job) (fun d hd => (mem_resource hd).1)
    (fun d hd => (mem_resource hd).2) h.url_fits
  obtain ⟨hpathFits, hfragmentFits⟩ := h.parts_fit _ hurl
  exact ⟨_, listsAt_of_read ha hwith hb hascii h.project_scalar h.job_scalar hurl hrooted hpath
    hfragment hpathFits hfragmentFits⟩

/-- A success whose body is an object is the page in that object. -/
theorem outcome_of_object {nesting : Nat} {a : Address} (ha : a.isAbsolute = true) {status : Int}
    (hstatus : Status.isSuccess status = true) {body : Bytes} {fields : Fields}
    (hbody : Json.readOctets body nesting = .ok (.object fields)) (reason : Option Text) :
    outcome nesting a (.answer status body reason) = .ok (some (Page.ofFields fields)) := by
  unfold outcome
  simp only [ha, hstatus, hbody, Bool.not_true, Bool.false_eq_true, if_true, if_false]

section ListsAt

variable {a : Address} {τ : Type} (send : Transport τ) (s : τ) {token : Value}

theorem ListsAt.service_of_sendable (h : c.ListsAt project job a) (hs : Sendable token) :
    c.service send s ⟨.text project, .text job, token⟩
      = { response := outcome c.nesting { a with query := queryOf token }
            (send s { a with query := queryOf token }).1
          state := (send s { a with query := queryOf token }).2
          log := logger.record .debug (report ⟨.text project, .text job, token⟩) none } := by
  unfold service
  rw [h.request, if_pos hs]

theorem ListsAt.service_of_not_sendable (h : c.ListsAt project job a) (hs : ¬Sendable token) :
    c.service send s ⟨.text project, .text job, token⟩
      = { response := .error (refusal token)
          state := s
          log := logger.record .debug (report ⟨.text project, .text job, token⟩) none } := by
  unfold service
  rw [h.request, if_neg hs]

end ListsAt

end CanList

/-- An address of the service that is asked when the settings name none. -/
def defaultAddress (path : Text) : Address :=
  ⟨"https", [], "dataflow.googleapis.com", none, path, none, none⟩

/-- The messages of the job `j` in the project `p` can be listed there. -/
theorem canList_default : (ofUrl Settings.defaultUrl).CanList "p" "j" := by
  have hurl : Address.read ((ofUrl Settings.defaultUrl).base ++ resource "p" "j")
      = .ok (defaultAddress "/v1b3/projects/p/jobs/j/messages") := by cbv
  have hread : Address.read (ofUrl Settings.defaultUrl).base = .ok (defaultAddress []) := by cbv
  have hask : (defaultAddress []).withQuery none = .ok (defaultAddress []) := by cbv
  refine ⟨by cbv, ⟨_, _, hread, by decide, hask, by decide, by decide⟩, by decide, by decide,
    by cbv, ?_⟩
  intro a ha
  rw [hurl] at ha
  obtain rfl := Except.ok.inj ha
  decide

end Client

end JobWatch
