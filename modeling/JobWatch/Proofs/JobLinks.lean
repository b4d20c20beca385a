/-
  JobWatch.Proofs.JobLinks
  ────────────────────────
  **LINKS NAME A PROJECT AND A JOB.**

  A link holds two identifiers as path segments.  A segment has no slash, so
  the slash behind it ends it, and it decodes to its identifier; so links that
  are equal name the same project and the same job.  Only surrogates cannot
  stand in a link, and the error then tells where the first run of them is:

      firstRun_of_firstBadRun? — what is found is the first longest run
      names_place              — the text of an error names the run
      eq_of_between            — two segments in one frame can be told apart
      consolePage_eq_ok_iff    — which identifiers have a console page
      messagesUrl_eq_ok_iff    — which identifiers have a listing
      links_name_identifiers   — both links, for all identifiers
-/
import Mathlib.Data.List.TakeWhile
import JobWatch.Job.Link
import JobWatch.Proofs.RequestPath

namespace JobWatch

/-! ## §1. Runs of surrogates. -/

/-- The first longest run of surrogates in a text, and where it begins. -/
def FirstRun (t : Text) (position : Nat) (run : Text) : Prop :=
  ∃ front behind, t = front ++ (run ++ behind) ∧ front.length = position ∧ run ≠ []
    ∧ (∀ c ∈ front, c.isSurrogate = false) ∧ (∀ c ∈ run, c.isSurrogate = true)
    ∧ ∀ c ∈ behind.head?, c.isSurrogate = false

namespace Text

/-- A text without surrogates has no run of them. -/
theorem firstBadRun?_of_scalar {t : Text} (h : t.isScalar = true) : t.firstBadRun? = none := by
  unfold firstBadRun?
  rw [List.dropWhile_eq_nil_iff.mpr (List.all_eq_true.mp h)]

/-- **What is found is the first longest run**: no surrogate stands before it, and none right
behind it. -/
theorem firstRun_of_firstBadRun? {t run : Text} {position : Nat}
    (h : t.firstBadRun? = some (position, run)) : FirstRun t position run := by
  unfold firstBadRun? at h
  cases hbad : t.dropWhile (fun c => !c.isSurrogate) with
  | nil =>
    rw [hbad] at h
    exact absurd h (by simp)
  | cons c rest =>
    rw [hbad] at h
    obtain ⟨rfl, rfl⟩ := Prod.mk.inj (Option.some.inj h)
    -- the text is what stands before the run, the run, and what stands behind it
    have htext : t = t.takeWhile (fun c => !c.isSurrogate) ++ (c :: rest) := by
      rw [← hbad, List.takeWhile_append_dropWhile]
    have hc : c.isSurrogate = true := by
      have hstop := head_dropWhile (congrArg List.head? hbad)
      rwa [Bool.not_eq_false'] at hstop
    refine ⟨t.takeWhile fun c => !c.isSurrogate, (c :: rest).dropWhile CodePoint.isSurrogate,
      ?_, ?_, ?_, ?_, ?_, ?_⟩
    · rw [List.takeWhile_append_dropWhile]
      exact htext
    · have hlength := congrArg List.length htext
      rw [List.length_append] at hlength
      omega
    · rw [List.takeWhile_cons_of_pos hc]
      exact List.cons_ne_nil _ _
    · intro d hd
      simpa using List.mem_takeWhile_imp hd
    · intro d hd
      exact List.mem_takeWhile_imp hd
    · intro d hd
      exact head_dropWhile hd

/-- A text with surrogates has a first run of them. -/
theorem exists_firstBadRun? {t : Text} (h : ¬t.isScalar = true) :
    ∃ position run, t.firstBadRun? = some (position, run) := by
  cases hfound : t.firstBadRun? with
  | some found => exact ⟨found.1, found.2, rfl⟩
  | none =>
    unfold firstBadRun? at hfound
    cases hbad : t.dropWhile (fun c => !c.isSurrogate) with
    | nil => exact absurd (List.all_eq_true.mpr (List.dropWhile_eq_nil_iff.mp hbad)) h
    | cons c rest =>
      rw [hbad] at hfound
      exact absurd hfound (by simp)

end Text

/-! ## §2. The text of an error. -/

namespace LinkError

/-- The number that hexadecimal digits write. -/
def hexNumber? (t : Text) : Option Nat := t.foldlM (fun n c => c.hexValue?.map (16 * n + ·)) 0

/-- How a run of surrogates is named: a single one by its number in four hexadecimal digits and by
its position, several by the positions of the first and the last. -/
inductive Names (position : Nat) : Text → Text → Prop
  /-- One surrogate. -/
  | one {c : CodePoint} {digits : Text} (hlength : digits.length = 4)
      (hdigits : hexNumber? digits = some c.val) :
      Names position [c]
        (Text.ofString "character '\\u" ++ digits ++ Text.ofString "' in position "
          ++ Text.ofNat position)
  /-- Several surrogates in a row. -/
  | several {run : Text} {last : Nat} (hrun : 2 ≤ run.length)
      (hlast : last + 1 = position + run.length) :
      Names position run
        (Text.ofString "characters in position " ++ Text.ofNat position ++ Text.ofString "-"
          ++ Text.ofNat last)

theorem hexValue?_digitChar {n : Nat} (h : n < 16) :
    (CodePoint.ofChar n.digitChar).hexValue? = some n := by
  have hall : ∀ n : Fin 16, (CodePoint.ofChar n.val.digitChar).hexValue? = some n.val := by decide
  exact hall ⟨n, h⟩

/-- Four hexadecimal digits write every number that has no more. -/
theorem hexNumber?_hex {n : Nat} (h : n < 0x10000) : hexNumber? (Text.hex 4 n) = some n := by
  have hdigit (m : Nat) : (CodePoint.ofChar (m % 16).digitChar).hexValue? = some (m % 16) :=
    hexValue?_digitChar (Nat.mod_lt m (by decide))
  unfold hexNumber? Text.hex
  simp only [Text.hex.go, List.foldlM_cons, List.foldlM_nil, hdigit, Option.map_some,
    Option.bind_eq_bind, Option.bind_some, Option.pure_def]
  congr 1
  omega

/-- **The text of an error names the run** that is found. -/
theorem names_place {t run : Text} {position : Nat} (h : FirstRun t position run) :
    Names position run (place position run) := by
  obtain ⟨-, -, -, -, hne, -, hsurrogates, -⟩ := h
  cases run with
  | nil => exact absurd rfl hne
  | cons c run =>
    cases run with
    | nil =>
      have hc : c.isSurrogate = true := hsurrogates c List.mem_cons_self
      have hlt : c.val < 0x10000 := by
        simp only [CodePoint.isSurrogate, CodePoint.within, Bool.and_eq_true,
          decide_eq_true_eq] at hc
        omega
      exact .one rfl (hexNumber?_hex hlt)
    | cons d run =>
      have hrun : 2 ≤ (c :: d :: run).length := by simp
      exact .several hrun (by omega)

end LinkError

/-! ## §3. Segments. -/

/-- A segment stands for a text: it is made of ASCII letters, digits, `_.-~` and escapes, has no
slash, and decodes to the text. -/
structure StandsFor (segment t : Text) : Prop where
  /-- Every other octet is escaped. -/
  escaped : Percent.Escaped Percent.isUnreserved segment
  /-- A slash would end the segment. -/
  unbroken : ∀ c ∈ segment, c ≠ CodePoint.ofChar '/'
  /-- Escapes are the octets of the text. -/
  decodes : Percent.decode segment = some t

theorem standsFor_encode {t : Text} (h : t.isScalar = true) : StandsFor (Percent.encode t) t where
  escaped := .encode (fun _ hc => hc) t
  unbroken := by
    intro c hc hslash
    have hmark := Percent.isEncodingMark_of_mem_encode hc
    rw [hslash] at hmark
    exact absurd hmark (by decide)
  decodes := Percent.decode_encode h

/-- **Two segments in one frame can be told apart**: a slash behind the first one ends it. -/
theorem Text.eq_of_between {front middle back s s' u u' : Text}
    (hs : ∀ c ∈ s, c ≠ CodePoint.ofChar '/') (hs' : ∀ c ∈ s', c ≠ CodePoint.ofChar '/')
    (h : front ++ s ++ (CodePoint.ofChar '/' :: middle) ++ u ++ back
      = front ++ s' ++ (CodePoint.ofChar '/' :: middle) ++ u' ++ back) :
    s = s' ∧ u = u' := by
  -- behind the frame's front, both texts are cut at the first slash
  have hrest : s ++ CodePoint.ofChar '/' :: (middle ++ (u ++ back))
      = s' ++ CodePoint.ofChar '/' :: (middle ++ (u' ++ back)) := by
    simpa only [List.append_assoc, List.cons_append, List.append_cancel_left_eq] using h
  have hcut := Text.cut?_append hs (middle ++ (u ++ back))
  rw [hrest, Text.cut?_append hs'] at hcut
  obtain ⟨hfirst, hsecond⟩ := Prod.mk.inj (Option.some.inj hcut)
  have hback : u' ++ back = u ++ back := List.append_cancel_left hsecond
  exact ⟨hfirst.symm, (List.append_cancel_right hback).symm⟩

/-- Segments for two pairs of texts in one frame make the same text only for the same pair. -/
theorem pair_eq_of_between {front middle back project project' job job' : Text}
    (hproject : project.isScalar = true) (hproject' : project'.isScalar = true)
    (hjob : job.isScalar = true) (hjob' : job'.isScalar = true)
    (h : front ++ Percent.encode project ++ (CodePoint.ofChar '/' :: middle) ++ Percent.encode job
        ++ back
      = front ++ Percent.encode project' ++ (CodePoint.ofChar '/' :: middle) ++ Percent.encode job'
        ++ back) :
    project = project' ∧ job = job' := by
  obtain ⟨hfirst, hsecond⟩ := Text.eq_of_between (standsFor_encode hproject).unbroken
    (standsFor_encode hproject').unbroken h
  exact ⟨Percent.encode_injective hproject hproject' hfirst,
    Percent.encode_injective hjob hjob' hsecond⟩

/-! ## §4. The console page. -/

namespace Job

/-- The console page of a job, from the segments of its identifiers. -/
def pageOf (p j : Text) : Text :=
  Text.ofString "https://console.developers.google.com/project/" ++ p
    ++ Text.ofString "/dataflow/job/" ++ j

theorem segment_of_scalar {t : Text} (h : t.isScalar = true) :
    segment (.text t) = .ok (Percent.encode t) := by
  unfold segment
  simp only [Text.firstBadRun?_of_scalar h]

theorem segment_of_run {t run : Text} {position : Nat}
    (h : t.firstBadRun? = some (position, run)) :
    segment (.text t) = .error (.surrogates position run) := by
  unfold segment
  simp only [h]

/-- Identifiers without surrogates have a console page. -/
theorem consolePage_of_scalar {project job : Text} (hproject : project.isScalar = true)
    (hjob : job.isScalar = true) :
    consolePage (.text project) (.text job)
      = .ok (pageOf (Percent.encode project) (Percent.encode job)) := by
  unfold consolePage
  rw [segment_of_scalar hproject, segment_of_scalar hjob]
  rfl

/-- **Other identifiers have none**, for the first run of surrogates in the project, or in the job
when the project has none. -/
theorem consolePage_of_run {project job : Text}
    (h : ¬(project.isScalar = true ∧ job.isScalar = true)) :
    ∃ position run, FirstRun (if project.isScalar then job else project) position run
      ∧ consolePage (.text project) (.text job) = .error (.surrogates position run) := by
  unfold consolePage
  by_cases hproject : project.isScalar = true
  · have hjob : ¬job.isScalar = true := fun hjob => h ⟨hproject, hjob⟩
    obtain ⟨position, run, hrun⟩ := Text.exists_firstBadRun? hjob
    rw [if_pos hproject, segment_of_scalar hproject, segment_of_run hrun]
    exact ⟨position, run, Text.firstRun_of_firstBadRun? hrun, rfl⟩
  · obtain ⟨position, run, hrun⟩ := Text.exists_firstBadRun? hproject
    rw [if_neg hproject, segment_of_run hrun]
    exact ⟨position, run, Text.firstRun_of_firstBadRun? hrun, rfl⟩

/-- **Which identifiers have a console page**, and which one. -/
theorem consolePage_eq_ok_iff (project job url : Text) :
    consolePage (.text project) (.text job) = .ok url
      ↔ (project.isScalar = true ∧ job.isScalar = true)
        ∧ pageOf (Percent.encode project) (Percent.encode job) = url := by
  constructor
  · intro h
    by_cases hscalar : project.isScalar = true ∧ job.isScalar = true
    · rw [consolePage_of_scalar hscalar.1 hscalar.2] at h
      exact ⟨hscalar, Except.ok.inj h⟩
    · obtain ⟨position, run, -, herror⟩ := consolePage_of_run hscalar
      rw [herror] at h
      exact absurd h (by simp)
  · intro h
    obtain ⟨⟨hproject, hjob⟩, rfl⟩ := h
    exact consolePage_of_scalar hproject hjob

end Job

/-! ## §5. The listing. -/

namespace Client

/-- Where the messages of a job are listed, from the segments of its identifiers. -/
def listingOf (c : Client) (p j : Text) : Text :=
  c.base ++ Text.ofString "/v1b3/projects/" ++ p ++ Text.ofString "/jobs/" ++ j
    ++ Text.ofString "/messages"

theorem base_append_resource (c : Client) (project job : Text) :
    c.base ++ resource project job
      = c.listingOf (Percent.encode project) (Percent.encode job) := by
  unfold resource listingOf
  simp only [List.append_assoc]

/-- **Which identifiers have a listing**, and where. -/
theorem messagesUrl_eq_ok_iff (c : Client) (project job url : Text) :
    c.messagesUrl (.text project) (.text job) = .ok url
      ↔ (project.isScalar = true ∧ job.isScalar = true)
        ∧ c.listingOf (Percent.encode project) (Percent.encode job) = url := by
  rw [← base_append_resource]
  constructor
  · intro h
    obtain ⟨p, j, hproject, hjob, hp, hj, rfl⟩ := texts_of_messagesUrl h
    obtain rfl := Value.text.inj hproject
    obtain rfl := Value.text.inj hjob
    exact ⟨⟨hp, hj⟩, rfl⟩
  · intro h
    obtain ⟨⟨hproject, hjob⟩, rfl⟩ := h
    exact messagesUrl_of_scalar c hproject hjob

theorem segment_of_scalar {t : Text} (h : t.isScalar = true) :
    segment (.text t) = .ok (Percent.encode t) := by
  unfold segment Percent.encode?
  simp only [if_pos h]

theorem segment_of_surrogate {t : Text} (h : ¬t.isScalar = true) :
    segment (.text t) = .error .unencodable := by
  unfold segment Percent.encode?
  simp only [if_neg h]

/-- **Other identifiers have none**, because they cannot be encoded. -/
theorem messagesUrl_of_surrogate (c : Client) {project job : Text}
    (h : ¬(project.isScalar = true ∧ job.isScalar = true)) :
    c.messagesUrl (.text project) (.text job) = .error .unencodable := by
  unfold messagesUrl
  by_cases hproject : project.isScalar = true
  · have hjob : ¬job.isScalar = true := fun hjob => h ⟨hproject, hjob⟩
    rw [segment_of_scalar hproject, segment_of_surrogate hjob]
  · rw [segment_of_surrogate hproject]

end Client

/-! ## §6. Both links. -/

/-- **Links name a project and a job.**  When neither identifier has a surrogate, both links can be
built: the identifiers stand in them as segments that have no slash and decode to them, and no
other pair of identifiers has the same console page, or the same listing of the same client.
When one of them has a surrogate, neither link can be built: the listing because of the encoding,
and the console page because of the first longest run of surrogates in the project, or in the job
when the project has none, which the text of the error names. -/
theorem links_name_identifiers (c : Client) (project job : Text) :
    ((project.isScalar = true ∧ job.isScalar = true) →
      (∃ p j, StandsFor p project ∧ StandsFor j job
          ∧ Job.consolePage (.text project) (.text job) = .ok (Job.pageOf p j)
          ∧ c.messagesUrl (.text project) (.text job) = .ok (c.listingOf p j))
        ∧ (∀ project' job' : Text,
            Job.consolePage (.text project') (.text job')
                = Job.consolePage (.text project) (.text job)
              ↔ project' = project ∧ job' = job)
        ∧ ∀ project' job' : Text,
            c.messagesUrl (.text project') (.text job') = c.messagesUrl (.text project) (.text job)
              ↔ project' = project ∧ job' = job)
      ∧ (¬(project.isScalar = true ∧ job.isScalar = true) →
        c.messagesUrl (.text project) (.text job) = .error .unencodable
          ∧ ∃ position run name,
            FirstRun (if project.isScalar then job else project) position run
              ∧ Job.consolePage (.text project) (.text job) = .error (.surrogates position run)
              ∧ LinkError.Names position run name
              ∧ (LinkError.surrogates position run).text?
                = some (Text.ofString
                    "Cannot encode job identifiers as UTF-8: 'utf-8' codec can't encode "
                  ++ name ++ Text.ofString ": surrogates not allowed")) := by
  constructor
  · intro hscalar
    have hpage := (Job.consolePage_eq_ok_iff project job _).mpr ⟨hscalar, rfl⟩
    have hlisting := (c.messagesUrl_eq_ok_iff project job _).mpr ⟨hscalar, rfl⟩
    refine ⟨⟨_, _, standsFor_encode hscalar.1, standsFor_encode hscalar.2, hpage, hlisting⟩, ?_, ?_⟩
    · intro project' job'
      constructor
      · intro h
        rw [hpage, Job.consolePage_eq_ok_iff] at h
        obtain ⟨hscalar', heq⟩ := h
        -- nothing stands behind the second segment of the page
        have hframe := congrArg (· ++ ([] : Text)) heq
        exact pair_eq_of_between hscalar'.1 hscalar.1 hscalar'.2 hscalar.2 hframe
      · intro h
        rw [h.1, h.2]
    · intro project' job'
      constructor
      · intro h
        rw [hlisting, Client.messagesUrl_eq_ok_iff] at h
        obtain ⟨hscalar', heq⟩ := h
        exact pair_eq_of_between hscalar'.1 hscalar.1 hscalar'.2 hscalar.2 heq
      · intro h
        rw [h.1, h.2]
  · intro hscalar
    obtain ⟨position, run, hrun, hpage⟩ := Job.consolePage_of_run hscalar
    exact ⟨c.messagesUrl_of_surrogate hscalar, position, run, _, hrun, hpage,
      LinkError.names_place hrun, rfl⟩

/-- A project with two surrogates in a row. -/
def pairedSurrogates : Text := [CodePoint.ofChar 'a', ⟨0xD83D, by decide⟩, ⟨0xDE00, by decide⟩]

/-- Identifiers that look like parts of a link, and one that cannot stand in it. -/
theorem links_name_identifiers_marks :
    (("a/b" : Text).isScalar = true ∧ ("é%2F" : Text).isScalar = true)
      ∧ (∃ p j, StandsFor p "a/b" ∧ StandsFor j "é%2F"
          ∧ Job.consolePage (.text "a/b") (.text "é%2F") = .ok (Job.pageOf p j)
          ∧ (Client.ofUrl "http://h").messagesUrl (.text "a/b") (.text "é%2F")
            = .ok ((Client.ofUrl "http://h").listingOf p j))
      ∧ ¬(pairedSurrogates.isScalar = true ∧ ("j" : Text).isScalar = true)
      ∧ ∃ position run name, FirstRun pairedSurrogates position run
        ∧ Job.consolePage (.text pairedSurrogates) (.text "j") = .error (.surrogates position run)
        ∧ LinkError.Names position run name := by
  have hscalar : ("a/b" : Text).isScalar = true ∧ ("é%2F" : Text).isScalar = true := by decide
  have hpaired : ¬(pairedSurrogates.isScalar = true ∧ ("j" : Text).isScalar = true) := by decide
  refine ⟨hscalar, ((links_name_identifiers _ _ _).1 hscalar).1, hpaired, ?_⟩
  obtain ⟨-, position, run, name, hrun, hpage, hname, -⟩ :=
    (links_name_identifiers (Client.ofUrl "http://h") pairedSurrogates "j").2 hpaired
  exact ⟨position, run, name, hrun, hpage, hname⟩

end JobWatch
