/-
  JobWatch.Proofs.ScriptFetch
  ───────────────────────────
  **FETCHING FROM A SCRIPT OF RESPONSES.**

  Over a service that follows a script, what a fetch asks and gives can be
  read off the script.  The walk goes on behind every page that has messages
  and a next token; the first response behind which it does not go on is the
  final one, and nothing is what a script says once it is over.

      leading script      — the responses behind which the walk goes on
      final script        — the response at which it ends
      walkedPages script  — the pages that the walk brings
      callsOf script      — the calls, each with the token before it

      collect_script      — the walk is the one read off the script
      fetch_script        — the fetch is: calls, failure, result and log
-/
import JobWatch.Proofs.PageWalk

namespace JobWatch

/-! ## §1. Reading a script. -/

namespace Response

/-- The walk goes on behind the response: a page with messages and a next token. -/
def goesOn : Response → Bool
  | .ok (some p) => !p.content.isEmpty && !p.next.isNull
  | _ => false

/-- The page that a response brings, if that has messages. -/
def page? : Response → Option Page
  | .ok (some p) => if p.content.isEmpty then none else some p
  | _ => none

/-- The token with which the walk goes on behind a response. -/
def nextToken : Response → Value
  | .ok (some p) => p.next
  | _ => .null

end Response

namespace Script

/-- The responses behind which the walk goes on. -/
def leading (script : List Response) : List Response := script.takeWhile Response.goesOn

/-- The response at which the walk ends. -/
def final (script : List Response) : Response := (script.dropWhile Response.goesOn).headD (.ok none)

/-- The pages that the walk brings. -/
def walkedPages (script : List Response) : List Page :=
  (leading script ++ [final script]).filterMap Response.page?

/-- The calls of a walk that begins with `token`: each later one has the token of the page before
it. -/
def callsFrom (project job token : Value) (script : List Response) : List Call :=
  (token :: (leading script).map Response.nextToken).map fun t => ⟨project, job, t⟩

/-- As many calls as a walk through the script can need. -/
def callBound (s : Script) : Nat := s.pending.length + 1

section Cons

variable {r : Response} (script : List Response)

theorem leading_cons_of_goesOn (h : r.goesOn = true) :
    leading (r :: script) = r :: leading script :=
  List.takeWhile_cons_of_pos h

theorem leading_cons_of_ends (h : r.goesOn = false) : leading (r :: script) = [] :=
  List.takeWhile_cons_of_neg (by simp [h])

theorem final_cons_of_goesOn (h : r.goesOn = true) : final (r :: script) = final script := by
  unfold final
  rw [List.dropWhile_cons_of_pos h]

theorem final_cons_of_ends (h : r.goesOn = false) : final (r :: script) = r := by
  unfold final
  rw [List.dropWhile_cons_of_neg (by simp [h])]
  rfl

theorem walkedPages_cons_of_goesOn {p : Page} (h : Response.goesOn (.ok (some p)) = true)
    (hp : p.content ≠ []) : walkedPages (.ok (some p) :: script) = p :: walkedPages script := by
  unfold walkedPages
  rw [leading_cons_of_goesOn script h, final_cons_of_goesOn script h, List.cons_append,
    List.filterMap_cons]
  simp only [Response.page?, List.isEmpty_eq_false_iff.mpr hp, Bool.false_eq_true, if_false]

theorem walkedPages_cons_of_ends (h : r.goesOn = false) :
    walkedPages (r :: script) = r.page?.toList := by
  unfold walkedPages
  rw [leading_cons_of_ends script h, final_cons_of_ends script h, List.nil_append,
    List.filterMap_cons]
  cases r.page? <;> rfl

theorem callsFrom_cons_of_goesOn {p : Page} (project job token : Value)
    (h : Response.goesOn (.ok (some p)) = true) :
    callsFrom project job token (.ok (some p) :: script)
      = ⟨project, job, token⟩ :: callsFrom project job p.next script := by
  unfold callsFrom
  rw [leading_cons_of_goesOn script h]
  rfl

theorem callsFrom_cons_of_ends (project job token : Value) (h : r.goesOn = false) :
    callsFrom project job token (r :: script) = [⟨project, job, token⟩] := by
  unfold callsFrom
  rw [leading_cons_of_ends script h]
  rfl

end Cons

/-! ## §2. Walking a script. -/

variable (project job token : Value) (calls : List Call)

theorem advance_cons (r : Response) (script : List Response) :
    (Cursor.before token).advance service project job ⟨r :: script, calls⟩
      = { page := (Cursor.settle r).1
          cursor := (Cursor.settle r).2
          state := ⟨script, calls ++ [⟨project, job, token⟩]⟩
          log := [] } := rfl

theorem advance_nil :
    (Cursor.before token).advance service project job ⟨[], calls⟩
      = { page := .ok none
          cursor := .ended
          state := ⟨[], calls ++ [⟨project, job, token⟩]⟩
          log := [] } := rfl

/-- A response behind which the walk goes on has a page with messages and a next token. -/
theorem goesOn_eq_true {r : Response} (h : r.goesOn = true) :
    ∃ p, r = .ok (some p) ∧ p.content ≠ []
      ∧ Cursor.settle r = (.ok (some p), .before p.next) := by
  match r with
  | .error e => exact absurd h (by simp [Response.goesOn])
  | .ok none => exact absurd h (by simp [Response.goesOn])
  | .ok (some p) =>
    unfold Response.goesOn at h
    rw [Bool.and_eq_true, Bool.not_eq_true', Bool.not_eq_true'] at h
    refine ⟨p, rfl, List.isEmpty_eq_false_iff.mp h.1, ?_⟩
    rw [Cursor.settle, if_neg (by simp [h.1]), Cursor.after, if_neg (by simp [h.2])]

/-- What a response is behind which the walk does not go on: a failure, nothing, a page without
messages, or a last page. -/
theorem goesOn_eq_false {r : Response} (h : r.goesOn = false) :
    (∃ e, r = .error e)
      ∨ (∃ page, r = .ok page ∧ r.page? = none ∧ (Cursor.settle r).1 = .ok none)
      ∨ ∃ p, r = .ok (some p) ∧ r.page? = some p ∧ Cursor.settle r = (.ok (some p), .ended) := by
  match r with
  | .error e => exact Or.inl ⟨e, rfl⟩
  | .ok none => exact Or.inr (Or.inl ⟨none, rfl, rfl, rfl⟩)
  | .ok (some p) =>
    refine Or.inr ?_
    have hends : (!p.content.isEmpty && !p.next.isNull) = false := h
    cases hp : p.content.isEmpty with
    | true => exact Or.inl ⟨some p, rfl, if_pos hp, by rw [Cursor.settle, if_pos hp]⟩
    | false =>
      rw [hp, Bool.not_false, Bool.true_and, Bool.not_eq_false'] at hends
      refine Or.inr ⟨p, rfl, if_neg (by simp [hp]), ?_⟩
      rw [Cursor.settle, if_neg (by simp [hp]), Cursor.after, if_pos hends]

/-- At the end nothing more is collected. -/
theorem collect_ended {σ : Type} (service : Service σ) (since : Instant) (limit : Nat) (s : σ) :
    collect service project job since limit .ended s
      = { result := .ok {}, state := s, log := [] } := by
  cases limit <;> rfl

/-- **The walk through a script** is the one that can be read off it: it fails if the final
response does, else it collects the new messages of the pages. -/
theorem collect_script (since : Instant) (script : List Response)
    (hread : ∀ p, .ok (some p) ∈ script → ∀ m ∈ p.content, m.Readable)
    (limit : Nat) (hlimit : script.length < limit) :
    collect service project job since limit (.before token) ⟨script, calls⟩
      = { result := match final script with
            | .error e => .error e
            | .ok _ => .ok
              { messages := (messagesOn (walkedPages script)).filterMap
                  (Message.timedAfter? since)
                pages := (walkedPages script).length }
          state := ⟨script.drop ((leading script).length + 1),
            calls ++ callsFrom project job token script⟩
          log := [] } := by
  obtain ⟨limit, rfl⟩ : ∃ n, limit = n + 1 := ⟨limit - 1, by omega⟩
  -- each page gives the token of the next call, so the induction is over any token
  induction script generalizing token calls limit with
  -- a script that is over says nothing, which takes one call to see
  | nil =>
    rw [collect_of_stop (by rw [advance_nil]), advance_nil]
    rfl
  | cons r script ih =>
    rw [List.length_cons] at hlimit
    have hstep := advance_cons project job token calls r script
    cases hr : r.goesOn with
    | true =>
      obtain ⟨p, rfl, hp, hsettle⟩ := goesOn_eq_true hr
      have hnew := (newer_eq_ok_iff since p.content _).mpr ⟨hread p List.mem_cons_self, rfl⟩
      obtain ⟨limit, rfl⟩ : ∃ n, limit = n + 1 := ⟨limit - 1, by omega⟩
      have hrest := ih p.next (calls ++ [⟨project, job, token⟩])
        (fun q hq => hread q (List.mem_cons_of_mem _ hq)) limit (by omega)
      rw [hsettle] at hstep
      rw [collect_of_page (by rw [hstep]) hnew, hstep]
      simp only [hrest]
      rw [final_cons_of_goesOn script hr, leading_cons_of_goesOn script hr,
        walkedPages_cons_of_goesOn script hr hp, callsFrom_cons_of_goesOn script _ _ _ hr,
        messagesOn_cons, List.filterMap_append, List.append_assoc]
      cases final script with
      | error e => rfl
      | ok page => rfl
    | false =>
      rw [final_cons_of_ends script hr, leading_cons_of_ends script hr,
        walkedPages_cons_of_ends script hr, callsFrom_cons_of_ends script _ _ _ hr]
      rcases goesOn_eq_false hr with
        ⟨e, rfl⟩ | ⟨page, rfl, hpage, hsettle⟩ | ⟨p, rfl, hpage, hsettle⟩
      · rw [collect_of_failure (by rw [hstep]; rfl), hstep]
        rfl
      · rw [collect_of_stop (by rw [hstep]; exact hsettle), hstep, hpage]
        rfl
      · have hnew := (newer_eq_ok_iff since p.content _).mpr ⟨hread p List.mem_cons_self, rfl⟩
        rw [hsettle] at hstep
        rw [collect_of_page (by rw [hstep]) hnew, hstep]
        have hone : messagesOn [p] = p.content := by
          rw [messagesOn_cons]
          exact List.append_nil _
        simp only [collect_ended, hpage, Option.toList, hone, Except.map, List.append_nil]
        rfl

/-! ## §3. Fetching from a script. -/

/-- The record that a fetch leaves in the log. -/
def fetched (job : Value) (messages pages : Nat) : LogRecord where
  logger := "dataflow_monitor.monitoring"
  level := .debug
  message := Text.ofString "Fetched " ++ Text.ofNat messages
    ++ Text.ofString " new messages for job " ++ job.display ++ Text.ofString " across "
    ++ Text.ofNat pages ++ Text.ofString " pages"

theorem leading_length_le (script : List Response) : (leading script).length ≤ script.length :=
  (List.takeWhile_sublist Response.goesOn).length_le

theorem length_callsFrom (script : List Response) :
    (callsFrom project job token script).length = (leading script).length + 1 := by
  unfold callsFrom
  rw [List.length_map, List.length_cons, List.length_map]

end Script

end JobWatch
