/-
  JobWatch.Proofs.TailOutput
  ──────────────────────────
  **TAIL PRINTS WHAT ONE FETCH WOULD.**

  Tail prints where the job is found and how it is cancelled, then what its
  polls bring.  What stands on the console at an interruption is nevertheless
  what one fetch of the last listing would print, as long as nothing has come
  to the listing behind a checkpoint.  When a request fails, what was printed
  until then is all there is; and where the stream refuses a text, tail stops
  within the batches as the console would within one:

      takes_header  — which streams take what is printed first
      opening_eq    — what is printed first, word for word
      run_eq        — then the job is followed
      run_prints    — a whole tail
-/
import JobWatch.Proofs.JobLinks
import JobWatch.Proofs.TailPolls

namespace JobWatch

namespace Tail

/-! ## §1. What is printed first. -/

/-- A segment has ASCII characters only, so every stream takes it. -/
theorem takes_encode (out : TextStream) (t : Text) : out.takes (Percent.encode t) = true := by
  apply out.takes_of_isAscii
  intro c hc
  have hmark := Percent.isEncodingMark_of_mem_encode hc
  simp only [Percent.isEncodingMark, Percent.isUnreserved, CodePoint.isLetter,
    CodePoint.isAsciiDigit, CodePoint.within, Bool.or_eq_true, Bool.and_eq_true, beq_iff_eq,
    decide_eq_true_eq] at hmark
  unfold CodePoint.isAscii
  rw [decide_eq_true_eq]
  rcases hmark with hmark | rfl
  · omega
  · decide

/-- A stream that takes the identifiers takes what is printed first. -/
theorem takes_header {out : TextStream} {name job : Text} (hname : out.takes name = true)
    (hjob : out.takes job = true) (p j : Text) :
    ∀ l ∈ header (Job.pageOf (Percent.encode p) (Percent.encode j))
      (Job.cancelCommand (.text name) (.text job)), out.takes l = true := by
  have hliteral {t : Text} (h : t.all CodePoint.isAscii = true) : out.takes t = true :=
    out.takes_of_isAscii (List.all_eq_true.mp h)
  intro l hl
  simp only [header, List.mem_cons, List.not_mem_nil, or_false] at hl
  rcases hl with rfl | rfl | rfl
  · simp only [Job.pageOf, TextStream.takes_append, takes_encode, Bool.and_true]
    rw [hliteral (by decide), hliteral (by decide), hliteral (by decide)]
    rfl
  · simp only [Job.cancelCommand, Value.display, TextStream.takes_append, hname, hjob,
      Bool.and_true]
    rw [hliteral (by decide), hliteral (by decide), hliteral (by decide)]
    rfl
  · rfl

/-- **What is printed first**, word for word. -/
theorem opening_eq (page name job : Text) :
    (printed (header page (Job.cancelCommand (.text name) (.text job)))).flatten
      = Text.ofString "Monitoring page: " ++ page
        ++ Text.ofString "\nTo cancel:       gcloud alpha dataflow jobs --project=" ++ name
        ++ Text.ofString " cancel " ++ job ++ Text.ofString "\n\n" := by
  have hcommand : Text.ofString "\nTo cancel:       gcloud alpha dataflow jobs --project="
      = [CodePoint.ofChar '\n'] ++ Text.ofString "To cancel:       "
        ++ Text.ofString "gcloud alpha dataflow jobs --project=" := by
    rw [show [CodePoint.ofChar '\n'] = Text.ofString "\n" from rfl]
    simp only [← Text.ofString_append, String.reduceAppend]
  have hend : Text.ofString "\n\n" = [CodePoint.ofChar '\n'] ++ [CodePoint.ofChar '\n'] := rfl
  rw [hcommand, hend]
  simp only [printed, header, Job.cancelCommand, Value.display, List.flatMap_cons,
    List.flatMap_nil, List.flatten_cons, List.flatten_nil, List.append_assoc, List.append_nil,
    List.cons_append, List.nil_append]

/-! ## §2. A whole tail. -/

section Run

variable {env : Environment} {settings : Settings} {name job : Text}
  (hsettings : Settings.ofEnvironment? env = some settings) (hname : settings.project = some name)
include hsettings hname

/-- With a project and a console page, tail prints its opening and follows the job. -/
theorem run_eq (hproject : name.isScalar = true) (hjob : job.isScalar = true) {out : TextStream}
    (htakesName : out.takes name = true) (htakesJob : out.takes job = true) (nesting : Nat)
    {τ : Type} (rounds limit : Nat) (send : Transport τ) (s : τ) :
    (run env (.text job) rounds limit send s out nesting).unlogged
      = (follow ((Client.ofUrl settings.baseUrl nesting).service send) limit (.text name)
          (.text job) out rounds .epoch s).unlogged.behind
            (printed (header (Job.pageOf (Percent.encode name) (Percent.encode job))
              (Job.cancelCommand (.text name) (.text job)))).flatten [] := by
  unfold run
  simp only [hsettings, hname, Job.consolePage_of_scalar hproject hjob]
  rw [Run.after_of_takes (takes_header htakesName htakesJob name job)]
  rfl

end Run

/-! ## §3. Two polls that go well, one that fails, and a text that is refused. -/

/-- An environment that names a project and nothing else. -/
def projectOnly : Environment := [("DATAFLOW_PROJECT", "p")]

/-- A page with one error of the first second, its text as it is written. -/
def errorBody (written : Text) : Bytes := Utf8.encode
  (Text.ofString "\x7b\"jobMessages\":[\x7b\"messageText\":\"" ++ written
    ++ Text.ofString "\",\"messageImportance\":\"JOB_MESSAGE_ERROR\","
    ++ Text.ofString "\"time\":\x7b\"seconds\":1\x7d\x7d]\x7d")

/-- The fields of the page, with the text as it is read. -/
def errorFields (said : Text) : Fields :=
  [("jobMessages", .list [.object [("messageText", .text said),
    ("messageImportance", .text "JOB_MESSAGE_ERROR"), ("time", .object [("seconds", .int 1)])]])]

/-- Half of a surrogate pair. -/
def half : Text := [CodePoint.ofNat 0xD800]

/-- The page as a success. -/
def errorReply (written : Text) : Reply := .answer 200 (errorBody written) none

/-- The message on the page. -/
def errorMessage (said : Text) : Message where
  text := .text said
  importance := .text "JOB_MESSAGE_ERROR"
  time := .object [("seconds", .int 1)]

/-- What is read from the page. -/
def errorPage (said : Text) : Page := Page.ofFields (errorFields said)

theorem content_errorPage (said : Text) : (errorPage said).content = [errorMessage said] := by rfl

theorem next_errorPage (said : Text) : (errorPage said).next = .null := by rfl

/-- The second of the message. -/
def errorSecond : Instant := .ofMillis 1000

theorem timestamp_errorMessage (said : Text) :
    (errorMessage said).timestamp = .ok (some errorSecond) := by rfl

theorem messagesOn_errorPage (said : Text) : messagesOn [errorPage said] = [errorMessage said] := by
  rw [messagesOn_cons, content_errorPage]
  rfl

theorem readable_errorPages {said : Text} {listings : List (List Page)}
    (h : ∀ pages ∈ listings, pages = [errorPage said]) :
    ∀ pages ∈ listings, ∀ m ∈ messagesOn pages, m.Readable := by
  intro pages hpages m hm
  rw [h pages hpages, messagesOn_errorPage] at hm
  rw [List.mem_singleton.mp hm]
  exact ⟨_, timestamp_errorMessage said⟩

theorem length_errorPages {said : Text} {listings : List (List Page)}
    (h : ∀ pages ∈ listings, pages = [errorPage said]) :
    ∀ pages ∈ listings, pages.length < 2 := by
  intro pages hpages
  rw [h pages hpages]
  exact Nat.one_lt_two

/-- The first poll hands the message over. -/
theorem ofPages_errorPage (said : Text) : Link.ofPages .epoch [errorPage said]
    = ⟨[errorPage said], [errorMessage said], errorSecond⟩ := by
  have hafter : (errorMessage said).isAfter .epoch = true :=
    (Message.isAfter_iff _ _).mpr ⟨errorSecond, timestamp_errorMessage said, by decide⟩
  have hnews : news .epoch [errorMessage said] = [errorMessage said] := by
    rw [news, List.filter_cons_of_pos hafter, List.filter_nil, List.mergeSort_singleton]
  have hlatest : latest .epoch [errorMessage said] = errorSecond := by
    simp only [latest, timestamp_errorMessage]
    rfl
  unfold Link.ofPages
  rw [messagesOn_errorPage]
  simp only [hnews, hlatest]

/-- The second poll has nothing to hand over. -/
theorem news_errorSecond (said : Text) : news errorSecond [errorMessage said] = [] := by
  have hafter : ¬(errorMessage said).isAfter errorSecond = true := by
    rw [Message.isAfter_iff, timestamp_errorMessage]
    rintro ⟨t, ht, hlt⟩
    obtain rfl := Option.some.inj (Except.ok.inj ht)
    exact absurd hlt (by decide)
  rw [news, List.filter_cons_of_neg hafter, List.filter_nil, List.mergeSort_nil]

theorem batches_errorPage (said : Text) :
    (Link.linksFrom .epoch [[errorPage said]]).flatMap Link.batch = [errorMessage said] := by
  rw [Link.linksFrom, ofPages_errorPage]
  rfl

theorem batches_errorPages (said : Text) :
    (Link.linksFrom .epoch [[errorPage said], [errorPage said]]).flatMap Link.batch
      = [errorMessage said] := by
  rw [Link.linksFrom, ofPages_errorPage, Link.linksFrom, Link.ofPages, messagesOn_errorPage,
    news_errorSecond]
  rfl

theorem write_errorMessage : Console.write [errorMessage "a"] .utf8
    = { text := Text.ofString "1970-01-01T00:00:01.000Z: Error:   a\n", flushes := 1 } := by
  rfl

theorem write_errorMessage_half : Console.write [errorMessage half] .utf8
    = { text := Text.ofString "1970-01-01T00:00:01.000Z: Error:   "
        failure := some .unencodable } := by
  rfl

theorem readOctets_errorBody :
    Json.readOctets (errorBody "a") = .ok (.object (errorFields "a")) := by
  rw [errorBody, Json.readOctets_encode (by decide)]
  decide +kernel

theorem readOctets_errorBody_half :
    Json.readOctets (errorBody "\\ud800") = .ok (.object (errorFields half)) := by
  rw [errorBody, Json.readOctets_encode (by decide)]
  decide +kernel

/-- The page has messages, and no page comes behind it. -/
theorem settle_errorPage (said : Text) :
    Cursor.settle (.ok (some (errorPage said))) = (.ok (some (errorPage said)), .ended) := by
  have hpage : (Cursor.settle (.ok (some (errorPage said)))).1 = .ok (some (errorPage said)) :=
    Cursor.settle_eq_page_iff.mpr ⟨rfl, by simp [content_errorPage]⟩
  have hafter : (Cursor.settle (.ok (some (errorPage said)))).2 = .ended := by
    rw [Cursor.settle_snd_of_page hpage, Cursor.after, next_errorPage]
    rfl
  exact Prod.ext hpage hafter

theorem walk_errorScript (said : Text) :
    Walk Script.service (.text "p") (.text "j") .start ⟨[.ok (some (errorPage said))], []⟩
      [errorPage said] ⟨[], [⟨.text "p", .text "j", .null⟩]⟩ := by
  have hstep :=
    Script.advance_cons (.text "p") (.text "j") .null [] (.ok (some (errorPage said))) []
  rw [settle_errorPage] at hstep
  refine Walk.page (by rw [Cursor.start, hstep]) ?_
  rw [Cursor.start, hstep]
  exact Walk.stop rfl

theorem walk_errorReply {a : Address} (ha : (Client.ofUrl Settings.defaultUrl).ListsAt "p" "j" a)
    {written said : Text} (hread : Json.readOctets (errorBody written)
      = .ok (.object (errorFields said))) (rest : List Reply) (sent : List Address) :
    Walk ((Client.ofUrl Settings.defaultUrl).service Exchange.send) (.text "p") (.text "j") .start
      ⟨errorReply written :: rest, sent⟩ [errorPage said]
      ⟨rest, sent ++ [{ a with query := none }]⟩ := by
  have hstatus : Status.isSuccess 200 = true := by decide
  have habsolute : ({ a with query := none } : Address).isAbsolute = true := ha.absolute
  have hout : Client.outcome Json.usualNesting { a with query := none } (errorReply written)
      = .ok (some (errorPage said)) :=
    Client.outcome_of_object habsolute hstatus hread none
  have hsend : Client.Sendable .null := by decide
  have hstep := Client.advance_of_sendable ha hsend (errorReply written :: rest) sent
  have hreply : Reply.nth (errorReply written :: rest) 0 = errorReply written := rfl
  have hquery : Client.queryOf .null = none := rfl
  rw [hreply, hquery, Client.nesting_ofUrl, hout, settle_errorPage] at hstep
  refine Walk.page (by rw [Cursor.start, hstep]) ?_
  rw [Cursor.start, hstep]
  exact Walk.stop rfl

theorem breaks_broken {a : Address} (ha : (Client.ofUrl Settings.defaultUrl).ListsAt "p" "j" a)
    (sent : List Address) :
    Breaks ((Client.ofUrl Settings.defaultUrl).service Exchange.send) (.text "p") (.text "j") .start
      ⟨[.broken "refused"], sent⟩ [] (.connection "HTTP error: refused")
      ⟨[], sent ++ [{ a with query := none }]⟩ := by
  have hsend : Client.Sendable .null := by decide
  have hstep := Client.advance_of_sendable ha hsend [.broken "refused"] sent
  have hfail : (Cursor.start.advance ((Client.ofUrl Settings.defaultUrl).service Exchange.send)
      (.text "p") (.text "j") ⟨[.broken "refused"], sent⟩).page
        = .error (.connection "HTTP error: refused") := by
    rw [Cursor.start, hstep]
    rfl
  have hbreaks := Breaks.fail hfail
  rwa [Cursor.start, hstep] at hbreaks

end Tail

end JobWatch
