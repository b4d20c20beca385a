/-
  JobWatch.Proofs.RequestPath
  ───────────────────────────
  **WHICH RESOURCE A REQUEST ASKS FOR.**

  The path of a request has the project and the job as two of its segments,
  percent-encoded.  An encoded identifier has no slash, no mark of a query and
  nothing else that an address would change, with two exceptions: `.` and `..`
  are encoded as themselves, and the normal form of the address resolves them
  away.  All other identifiers stand in the path as they were given:

      normalPath_join      — a path without dot segments is in normal form
      splitAt_path         — the segments of the path that is asked
      length_asked_eq_iff  — none is lost but to a dot segment
      IsOrigin.listsAt     — the address of the requests, in closed form
      sends_resource_iff   — the request names project and job exactly when
                             neither is a dot segment
-/
import Mathlib.Algebra.Order.BigOperators.Group.List
import Mathlib.Algebra.Order.Ring.Nat
import JobWatch.Proofs.ListingRequest

namespace JobWatch

/-! ## §1. The room that pieces take. -/

namespace Text

/-- How many characters pieces take, each with one separator. -/
def room (pieces : List Text) : Nat := (pieces.map fun p => p.length + 1).sum

theorem room_cons (p : Text) (pieces : List Text) :
    room (p :: pieces) = p.length + 1 + room pieces := rfl

theorem room_le_of_sublist {pieces pieces' : List Text} (h : pieces.Sublist pieces') :
    room pieces ≤ room pieces' := (h.map _).sum_le_sum fun _ _ => Nat.zero_le _

/-- Pieces that are joined take one separator less. -/
theorem length_join (c : CodePoint) {pieces : List Text} (hne : pieces ≠ []) :
    (join [c] pieces).length + 1 = room pieces := by
  induction pieces with
  | nil => exact absurd rfl hne
  | cons p pieces ih =>
    cases pieces with
    | nil => rfl
    | cons q pieces =>
      have hrest := ih (by simp)
      rw [room_cons, ← hrest]
      show (p ++ [c] ++ join [c] (q :: pieces)).length + 1 = _
      rw [List.length_append, List.length_append, List.length_singleton]
      omega

end Text

/-! ## §2. Dot segments. -/

namespace Address

/-- Segments without dot segments are all kept. -/
theorem resolve_of_plain {segments : List Text} (h : ∀ s ∈ segments, ¬IsDotSegment s)
    (kept : List Text) : resolve segments kept = segments.reverse ++ kept := by
  induction segments generalizing kept with
  | nil => rfl
  | cons s segments ih =>
    have hs := h s List.mem_cons_self
    rcases resolve_cons s segments kept with ⟨hdot, -⟩ | ⟨-, hkeeps⟩
    · exact absurd hdot hs
    · rw [hkeeps, ih (fun r hr => h r (List.mem_cons_of_mem _ hr)), List.reverse_cons,
        List.append_assoc, List.singleton_append]

/-- No dot segment is left. -/
theorem plain_of_mem_resolve {segments kept : List Text} (h : ∀ s ∈ kept, ¬IsDotSegment s) :
    ∀ s ∈ resolve segments kept, ¬IsDotSegment s := by
  induction segments generalizing kept with
  | nil => exact h
  | cons s segments ih =>
    rcases resolve_cons s segments kept with ⟨-, kept', heq, hsub⟩ | ⟨hs, heq⟩
    · rw [heq]
      exact ih fun r hr => h r (hsub.subset hr)
    · rw [heq]
      refine ih fun r hr => ?_
      rcases List.mem_cons.mp hr with rfl | hr
      · exact hs
      · exact h r hr

/-- **A path without dot segments is in normal form.** -/
theorem normalPath_join {segments : List Text} (hne : segments ≠ [])
    (hslash : ∀ s ∈ segments, ∀ d ∈ s, d ≠ CodePoint.ofChar '/')
    (hplain : ∀ s ∈ segments, ¬IsDotSegment s) :
    normalPath (Text.join ['/'] segments) = Text.join ['/'] segments := by
  unfold normalPath
  rw [Text.splitAt_join hne hslash, resolve_of_plain hplain, List.append_nil, List.reverse_reverse]

end Address

/-! ## §3. The segments of the resource. -/

namespace Percent

/-- Different texts are encoded differently. -/
theorem encode_injective {s t : Text} (hs : s.isScalar = true) (ht : t.isScalar = true)
    (h : encode s = encode t) : s = t := by
  have hback := decode_encode hs
  rw [h, decode_encode ht] at hback
  exact (Option.some.inj hback).symm

/-- Encoding neither makes a dot segment nor hides one. -/
theorem isDotSegment_encode_iff {t : Text} (ht : t.isScalar = true) :
    Address.IsDotSegment (encode t) ↔ Address.IsDotSegment t := by
  have hone : encode (Text.ofString ".") = Text.ofString "." := by decide
  have htwo : encode (Text.ofString "..") = Text.ofString ".." := by decide
  constructor
  · rintro (h | h)
    · exact Or.inl (encode_injective ht (by decide) (h.trans hone.symm))
    · exact Or.inr (encode_injective ht (by decide) (h.trans htwo.symm))
  · rintro (rfl | rfl)
    · exact Or.inl hone
    · exact Or.inr htwo

end Percent

namespace Client

/-- The segments of the resource of a job, the empty one in front of the first slash included. -/
def segmentsOf (project job : Text) : List Text :=
  [[], "v1b3", "projects", Percent.encode project, "jobs", Percent.encode job, "messages"]

/-- The segments that are left of them in normal form. -/
def askedSegments (project job : Text) : List Text :=
  (Address.resolve (segmentsOf project job) []).reverse

theorem resource_eq_join (project job : Text) :
    resource project job = Text.join ['/'] (segmentsOf project job) := by
  have hfront : Text.ofString "/v1b3/projects/"
      = [CodePoint.ofChar '/'] ++ Text.ofString "v1b3" ++ [CodePoint.ofChar '/']
        ++ Text.ofString "projects" ++ [CodePoint.ofChar '/'] := by decide
  have hmiddle : Text.ofString "/jobs/"
      = [CodePoint.ofChar '/'] ++ Text.ofString "jobs" ++ [CodePoint.ofChar '/'] := by decide
  have hend : Text.ofString "/messages" = [CodePoint.ofChar '/'] ++ Text.ofString "messages" := by
    decide
  unfold resource segmentsOf
  rw [hfront, hmiddle, hend]
  simp only [Text.join, List.append_assoc, List.nil_append]

/-- A segment of the resource needs no escaping in a path and has no slash. -/
theorem escaped_of_mem_segmentsOf {project job s : Text} (h : s ∈ segmentsOf project job) :
    Percent.Escaped (Percent.keeps Component.barredInPath) s
      ∧ ∀ d ∈ s, d ≠ CodePoint.ofChar '/' := by
  have hencoded : ∀ t : Text, Percent.Escaped (Percent.keeps Component.barredInPath)
      (Percent.encode t) ∧ ∀ d ∈ Percent.encode t, d ≠ CodePoint.ofChar '/' := by
    intro t
    refine ⟨.encode (fun _ => Percent.keeps_of_isUnreserved (by decide)) t, ?_⟩
    rintro d hd rfl
    exact absurd (Percent.isEncodingMark_of_mem_encode hd) (by decide)
  -- a word of letters and digits is its own encoding, so it is a case of the above
  have hword : ∀ w : Text, Percent.encode w = w →
      Percent.Escaped (Percent.keeps Component.barredInPath) w
        ∧ ∀ d ∈ w, d ≠ CodePoint.ofChar '/' := by
    intro w hw
    have hboth := hencoded w
    rwa [hw] at hboth
  simp only [segmentsOf, List.mem_cons, List.not_mem_nil, or_false] at h
  rcases h with rfl | rfl | rfl | rfl | rfl | rfl | rfl
  · exact hword _ rfl
  · exact hword _ (by decide)
  · exact hword _ (by decide)
  · exact hencoded project
  · exact hword _ (by decide)
  · exact hencoded job
  · exact hword _ (by decide)

section Asked

variable {project job : Text}

/-- Segments are only lost. -/
theorem asked_sublist (project job : Text) :
    (askedSegments project job).Sublist (segmentsOf project job) := by
  have hsub := (Address.resolve_sublist (segmentsOf project job) []).reverse
  rwa [List.append_nil, List.reverse_reverse] at hsub

theorem plain_of_mem_asked {s : Text} (h : s ∈ askedSegments project job) :
    ¬Address.IsDotSegment s :=
  Address.plain_of_mem_resolve (fun _ hr => absurd hr List.not_mem_nil) s (List.mem_reverse.mp h)

theorem asked_ne_nil (project job : Text) : askedSegments project job ≠ [] := by
  -- the first segment is never given up
  obtain ⟨kept, hkept⟩ := Address.resolve_rooted
    ["v1b3", "projects", Percent.encode project, "jobs", Percent.encode job, "messages"] []
  have hstart : Address.resolve (segmentsOf project job) [] = kept ++ [[]] := hkept
  unfold askedSegments
  rw [hstart]
  simp

/-- **The segments of the path that is asked.** -/
theorem splitAt_path (project job : Text) :
    Text.splitAt '/' (Address.normalPath (resource project job)) = askedSegments project job := by
  have hslash : ∀ s ∈ segmentsOf project job, ∀ d ∈ s, d ≠ CodePoint.ofChar '/' :=
    fun s hs => (escaped_of_mem_segmentsOf hs).2
  unfold Address.normalPath
  rw [resource_eq_join, Text.splitAt_join (by simp [segmentsOf]) hslash]
  exact Text.splitAt_join (asked_ne_nil project job)
    fun s hs => hslash s ((asked_sublist project job).subset hs)

theorem normalPath_resource (project job : Text) :
    Address.normalPath (resource project job) = Text.join ['/'] (askedSegments project job) := by
  unfold Address.normalPath
  rw [resource_eq_join, Text.splitAt_join (by simp [segmentsOf])
    fun s hs => (escaped_of_mem_segmentsOf hs).2]
  rfl

/-- The path that is asked is in normal form, and needs no escaping. -/
theorem quote_normalPath_resource (project job : Text) :
    Percent.quote (Percent.keeps Component.barredInPath)
        (Address.normalPath (resource project job)) = Address.normalPath (resource project job)
      ∧ Address.normalPath (Address.normalPath (resource project job))
        = Address.normalPath (resource project job) := by
  have hescaped : ∀ s ∈ askedSegments project job,
      Percent.Escaped (Percent.keeps Component.barredInPath) s
        ∧ ∀ d ∈ s, d ≠ CodePoint.ofChar '/' :=
    fun s hs => escaped_of_mem_segmentsOf ((asked_sublist project job).subset hs)
  rw [normalPath_resource]
  constructor
  · exact (Percent.Escaped.join (by decide) (by decide) fun s hs => (hescaped s hs).1).quote_eq_self
  · exact Address.normalPath_join (asked_ne_nil project job) (fun s hs => (hescaped s hs).2)
      fun _ => plain_of_mem_asked

theorem length_normalPath_resource_le (project job : Text) :
    (Address.normalPath (resource project job)).length ≤ (resource project job).length := by
  have hne : segmentsOf project job ≠ [] := by simp [segmentsOf]
  have hbefore := Text.length_join '/' hne
  have hafter := Text.length_join '/' (asked_ne_nil project job)
  have hroom := Text.room_le_of_sublist (asked_sublist project job)
  rw [← resource_eq_join] at hbefore
  rw [normalPath_resource]
  omega

/-- When neither identifier is a dot segment all segments are left. -/
theorem asked_of_plain (hproject : project.isScalar = true) (hjob : job.isScalar = true)
    (h : ¬Address.IsDotSegment project ∧ ¬Address.IsDotSegment job) :
    askedSegments project job = segmentsOf project job := by
  have hplain : ∀ s ∈ segmentsOf project job, ¬Address.IsDotSegment s := by
    intro s hs
    simp only [segmentsOf, List.mem_cons, List.not_mem_nil, or_false] at hs
    rcases hs with rfl | rfl | rfl | rfl | rfl | rfl | rfl
    · decide
    · decide
    · decide
    · exact fun hdot => h.1 ((Percent.isDotSegment_encode_iff hproject).mp hdot)
    · decide
    · exact fun hdot => h.2 ((Percent.isDotSegment_encode_iff hjob).mp hdot)
    · decide
  unfold askedSegments
  rw [Address.resolve_of_plain hplain, List.append_nil, List.reverse_reverse]

/-- **A segment is lost exactly when an identifier is a dot segment.** -/
theorem length_asked_eq_iff (hproject : project.isScalar = true) (hjob : job.isScalar = true) :
    (askedSegments project job).length = 7
      ↔ ¬Address.IsDotSegment project ∧ ¬Address.IsDotSegment job := by
  constructor
  · intro hlength
    -- as many segments as there were are all of them, and none that is left is a dot segment
    have hall : askedSegments project job = segmentsOf project job :=
      (asked_sublist project job).eq_of_length hlength
    have hplain : ∀ t, Percent.encode t ∈ segmentsOf project job → t.isScalar = true →
        ¬Address.IsDotSegment t := by
      intro t hmem ht hdot
      rw [← hall] at hmem
      exact plain_of_mem_asked hmem ((Percent.isDotSegment_encode_iff ht).mpr hdot)
    exact ⟨hplain project (by simp [segmentsOf]) hproject, hplain job (by simp [segmentsOf]) hjob⟩
  · intro h
    rw [asked_of_plain hproject hjob h]
    rfl

end Asked

/-! ## §4. Requests to an origin. -/

/-- The base of the client is of the form `scheme://host`: a request can be sent to it, and
nothing stands behind the host. -/
structure IsOrigin (c : Client) : Prop where
  base_scalar : c.base.isScalar = true
  base_asked : ∃ a b, Address.read c.base = .ok a ∧ a.isAbsolute = true
    ∧ a.withQuery none = .ok b ∧ b.isAbsolute = true ∧ b.host.all CodePoint.isAscii = true
  bare : (Address.Parts.ofText c.base).path = [] ∧ (Address.Parts.ofText c.base).query = none
    ∧ (Address.Parts.ofText c.base).fragment = none

/-- The call sends one request, and asks the address `a` with it. -/
def Sends (c : Client) (call : Call) (a : Address) : Prop :=
  ∀ x : Exchange, (c.service Exchange.send x call).state.sent = x.sent ++ [a]

theorem sends_iff (c : Client) (call : Call) (a : Address) :
    c.Sends call a ↔ c.request call = .ok a := by
  have hsent : ∀ (x : Exchange) (b : Address), (Exchange.send x b).2.sent = x.sent ++ [b] := by
    intro x b
    obtain ⟨pending, sent⟩ := x
    cases pending <;> rfl
  -- one exchange is enough to tell what is sent, and it is the same in every other
  unfold Sends service
  cases hrequest : c.request call with
  | error e =>
    refine ⟨fun h => absurd (h ⟨[], []⟩) (by simp), fun h => absurd h (by simp)⟩
  | ok b =>
    simp only [hsent, List.append_cancel_left_eq, List.cons.injEq, and_true, Except.ok.injEq]
    exact ⟨fun h => h ⟨[], []⟩, fun h _ => h⟩

/-- Only texts that can be encoded make segments. -/
theorem text_of_segment {v : Value} {s : Text} (h : segment v = .ok s) :
    ∃ t, v = .text t ∧ t.isScalar = true := by
  cases v with
  | text t =>
    refine ⟨t, rfl, ?_⟩
    by_contra ht
    unfold segment Percent.encode? at h
    simp only [if_neg ht] at h
    exact absurd h (by simp)
  | _ => exact absurd h (by simp [segment])

theorem texts_of_messagesUrl {c : Client} {project job : Value} {url : Text}
    (h : c.messagesUrl project job = .ok url) :
    ∃ p j : Text, project = .text p ∧ job = .text j ∧ p.isScalar = true ∧ j.isScalar = true
      ∧ url = c.base ++ resource p j := by
  have hsegments : ∃ s s', segment project = .ok s ∧ segment job = .ok s' := by
    unfold messagesUrl at h
    cases hproject : segment project with
    | error e =>
      simp only [hproject] at h
      exact absurd h (by simp)
    | ok s =>
      cases hjob : segment job with
      | error e =>
        simp only [hproject, hjob] at h
        exact absurd h (by simp)
      | ok s' => exact ⟨s, s', rfl, rfl⟩
  obtain ⟨s, s', hproject, hjob⟩ := hsegments
  obtain ⟨p, rfl, hp⟩ := text_of_segment hproject
  obtain ⟨j, rfl, hj⟩ := text_of_segment hjob
  rw [messagesUrl_of_scalar c hp hj] at h
  exact ⟨p, j, rfl, rfl, hp, hj, (Except.ok.inj h).symm⟩

/-- A call whose request can be built names its project and its job in texts that can be encoded,
and the address of the listing is not too long. -/
theorem texts_of_request {c : Client} {call : Call} {a : Address} (h : c.request call = .ok a) :
    ∃ project job : Text, call.project = .text project ∧ call.job = .text job
      ∧ project.isScalar = true ∧ job.isScalar = true
      ∧ (c.base ++ resource project job).length ≤ Address.lengthLimit := by
  unfold request at h
  simp only [bind, bind_eq_ok_iff, addressed_eq_ok_iff] at h
  obtain ⟨url, hurl, read, hread, -⟩ := h
  obtain ⟨project, job, hproject, hjob, hp, hj, rfl⟩ := texts_of_messagesUrl hurl
  exact ⟨project, job, hproject, hjob, hp, hj, Address.length_le_of_read hread⟩

variable {c : Client}

/-- **The address of the requests to an origin**, in closed form: all of it but the path is the
same for every project and job. -/
theorem IsOrigin.listsAt (h : c.IsOrigin) : ∃ b : Address, b.isAbsolute = true ∧
    ∀ project job : Text, project.isScalar = true → job.isScalar = true →
      (c.base ++ resource project job).length ≤ Address.lengthLimit →
      c.ListsAt project job
        { b with path := Address.normalPath (resource project job), fragment := none } := by
  obtain ⟨a, b, hread, ha, hwith, hb, hascii⟩ := h.base_asked
  obtain ⟨hpath, hquery, hfragment⟩ := h.bare
  refine ⟨b, hb, fun project job hproject hjob hfits => ?_⟩
  obtain ⟨hrooted, hurl⟩ := Address.read_append_eq hread ha h.base_scalar
    (resource_head project job) (fun d hd => (mem_resource hd).1)
    (fun d hd => (mem_resource hd).2) hfits
  -- behind an origin the resource is the whole path
  have hextend : (Address.Parts.ofText c.base).extend (resource project job)
      = { Address.Parts.ofText c.base with path := resource project job } := by
    unfold Address.Parts.extend
    simp only [hfragment, hquery, hpath, List.nil_append]
  obtain ⟨hquote, hnormal⟩ := quote_normalPath_resource project job
  rw [hextend] at hrooted hurl
  simp only [hquery, hfragment, Option.map_none, hquote] at hurl
  have hlength := length_normalPath_resource_le project job
  have hasks := listsAt_of_read ha hwith hb hascii hproject hjob hurl
    (Address.normalPath_rooted hrooted) ?_ (fun d hd => absurd hd List.not_mem_nil) ?_
    (Nat.zero_le _)
  · rwa [hnormal, hquote] at hasks
  · intro d hd
    rw [← hquote] at hd
    exact Address.isVisible_of_mem_quote hd
  · rw [List.length_append] at hfits
    omega

/-- Addresses that differ in path and query alone have different texts if their paths differ. -/
theorem path_eq_of_text_eq {b : Address} (hb : b.fragment = none) {path path' : Text}
    {query query' : Option Text}
    (hpath : ∀ d ∈ path, ([0x3F, 0x23] : List Nat).contains d.val = false)
    (hpath' : ∀ d ∈ path', ([0x3F, 0x23] : List Nat).contains d.val = false)
    (h : ({ b with path := path', query := query' } : Address).text
      = ({ b with path, query } : Address).text) : path' = path := by
  -- the path ends where its query begins, or with the text
  have htail : ∀ q : Option Text, Address.marked '?' q = [] ∨ ∃ d more,
      Address.marked '?' q = d :: more ∧ ([0x3F, 0x23] : List Nat).contains d.val = true := by
    intro q
    cases q with
    | none => exact Or.inl rfl
    | some q => exact Or.inr ⟨_, q, rfl, by decide⟩
  have htext : ∀ (path : Text) (query : Option Text),
      ({ b with path, query } : Address).text
        = ({ b with path := [], query := none } : Address).text
          ++ (path ++ Address.marked '?' query) := by
    intro path query
    unfold Address.text Address.authority
    simp only [hb, List.append_nil, List.append_assoc]
    cases query <;> rfl
  rw [htext, htext path, List.append_cancel_left_eq] at h
  have hcut := Address.upTo_append hpath (htail query)
  rw [← h, Address.upTo_append hpath' (htail query')] at hcut
  exact congrArg Prod.fst hcut

/-- **A request names its project and its job exactly when neither is a dot segment.**  The call
sends one request; the path of it, cut at its slashes, has seven segments, of which the fourth
decodes to the project and the sixth to the job, unless one of the two is `.` or `..`.  And when
neither is, no call for another project or job asks the same address. -/
theorem sends_resource_iff (h : c.IsOrigin) {project job : Text}
    (hproject : project.isScalar = true) (hjob : job.isScalar = true)
    (hfits : (c.base ++ resource project job).length ≤ Address.lengthLimit) {token : Value}
    (htoken : Sendable token) :
    ∃ a, c.Sends ⟨.text project, .text job, token⟩ a
      ∧ ((∃ p j : Text, Text.splitAt '/' a.path
              = [[], "v1b3", "projects", p, "jobs", j, "messages"]
            ∧ Percent.decode p = some project ∧ Percent.decode j = some job)
          ↔ ¬Address.IsDotSegment project ∧ ¬Address.IsDotSegment job)
      ∧ (¬Address.IsDotSegment project → ¬Address.IsDotSegment job →
          ∀ call a', c.Sends call a' → a'.text = a.text →
            call.project = .text project ∧ call.job = .text job) := by
  obtain ⟨b, -, hlists⟩ := h.listsAt
  have hasks := hlists project job hproject hjob hfits
  refine ⟨_, (sends_iff _ _ _).mpr ((hasks.request token).trans (if_pos htoken)), ?_, ?_⟩
  · show (∃ p j, Text.splitAt '/' (Address.normalPath (resource project job)) = _ ∧ _) ↔ _
    rw [splitAt_path]
    constructor
    · rintro ⟨p, j, hsegments, -, -⟩
      -- the number of segments alone tells that none was lost
      rw [← length_asked_eq_iff hproject hjob, hsegments]
      rfl
    · intro hplain
      rw [asked_of_plain hproject hjob hplain]
      exact ⟨_, _, rfl, Percent.decode_encode hproject, Percent.decode_encode hjob⟩
  · intro hnoProject hnoJob call a' hsends htext
    have hplain := And.intro hnoProject hnoJob
    have hrequest := (sends_iff _ _ _).mp hsends
    obtain ⟨project', job', hp, hj, hproject', hjob', hfits'⟩ := texts_of_request hrequest
    -- the other request asks an address of the same shape
    have hcall : call = ⟨.text project', .text job', call.token⟩ := by rw [← hp, ← hj]
    rw [hcall, (hlists project' job' hproject' hjob' hfits').request] at hrequest
    split at hrequest
    next =>
      obtain rfl := Except.ok.inj hrequest
      have hfree : ∀ p j : Text, ∀ d ∈ Address.normalPath (resource p j),
          ([0x3F, 0x23] : List Nat).contains d.val = false := by
        intro p j d hd
        rcases Address.mem_of_mem_normalPath hd with rfl | hd
        · decide
        · exact (mem_resource hd).2
      have hpath := path_eq_of_text_eq (b := { b with fragment := none }) rfl
        (hfree project job) (hfree project' job') htext
      have hasked : askedSegments project' job' = askedSegments project job := by
        rw [← splitAt_path, hpath, splitAt_path]
      -- so as many segments are left, and the other identifiers are no dot segments either
      have hplain' : ¬Address.IsDotSegment project' ∧ ¬Address.IsDotSegment job' := by
        rw [← length_asked_eq_iff hproject' hjob', hasked, length_asked_eq_iff hproject hjob]
        exact hplain
      rw [asked_of_plain hproject hjob hplain, asked_of_plain hproject' hjob' hplain'] at hasked
      simp only [segmentsOf, List.cons.injEq, and_true, true_and] at hasked
      rw [hp, hj, Percent.encode_injective hproject' hproject hasked.1,
        Percent.encode_injective hjob' hjob hasked.2]
      exact ⟨rfl, rfl⟩
    next => exact absurd hrequest (by simp)

/-- The address that is asked when the settings name none is an origin. -/
theorem isOrigin_default : (ofUrl Settings.defaultUrl).IsOrigin := by
  obtain ⟨hscalar, hasked, -⟩ := canList_default
  exact ⟨hscalar, hasked, by decide, by decide, by decide⟩

/-- Identifiers with slashes, escapes and marks of a query in them stand in the path as they were
given. -/
theorem sends_resource_iff_marks :
    ∃ a, (ofUrl Settings.defaultUrl).Sends ⟨.text "a/../b", .text "%2E?j=", .text "t"⟩ a
      ∧ ∃ p j : Text, Text.splitAt '/' a.path
          = [[], "v1b3", "projects", p, "jobs", j, "messages"]
        ∧ Percent.decode p = some (Text.ofString "a/../b")
        ∧ Percent.decode j = some (Text.ofString "%2E?j=") := by
  have hproject : (Text.ofString "a/../b").isScalar = true := by decide
  have hjob : (Text.ofString "%2E?j=").isScalar = true := by decide
  have htoken : Sendable (.text "t") := by decide
  obtain ⟨a, hsends, hpath, -⟩ :=
    sends_resource_iff isOrigin_default hproject hjob (by cbv) htoken
  exact ⟨a, hsends, hpath.mpr ⟨by decide, by decide⟩⟩

/-- **The two dot segments are taken for what they are in an address.**  The project `..` takes the
segment in front of it away, so that another resource is asked; and with `.` and `..` for
identifiers two calls for different jobs ask one address. -/
theorem sends_dotSegments :
    (ofUrl Settings.defaultUrl).Sends ⟨.text "..", .text "j", .null⟩
        (defaultAddress "/v1b3/jobs/j/messages")
      ∧ (Text.splitAt '/' (defaultAddress "/v1b3/jobs/j/messages").path).length = 5
      ∧ (ofUrl Settings.defaultUrl).Sends ⟨.text ".", .text ".", .null⟩
        (defaultAddress "/v1b3/projects/jobs/messages")
      ∧ (ofUrl Settings.defaultUrl).Sends ⟨.text "jobs", .text "..", .null⟩
        (defaultAddress "/v1b3/projects/jobs/messages") := by
  simp only [sends_iff]
  exact ⟨by cbv, by decide, by cbv, by cbv⟩

end Client

end JobWatch
