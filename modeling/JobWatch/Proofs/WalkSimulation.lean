/-
  JobWatch.Proofs.WalkSimulation
  ──────────────────────────────
  **WALKS OVER SERVICES THAT ANSWER ALIKE.**

  Two services may keep quite different states and still give the same
  response to every call of a walk.  Then a fetch gives the same over both,
  whether it succeeds, fails, or runs out of calls:

      collect_alike — the walks collect the same
      fetch_alike   — the fetches give the same, and end in related states
-/
import JobWatch.Proofs.ScriptFetch

namespace JobWatch

variable {σ τ : Type}

/-- Behind a step that brings a page the walk stands behind that page. -/
theorem Cursor.cursor_of_page {service : Service σ} {project job : Value} {c : Cursor} {s : σ}
    {p : Page} (h : (c.advance service project job s).page = .ok (some p)) :
    (c.advance service project job s).cursor = after p := by
  cases c with
  | ended => exact absurd h (by simp [advance])
  | before token => exact settle_snd_of_page h

section Alike

/-- Over the calls of a walk two services give the same responses.  While a walk stands before a
token their states are related by `before`, and when it is over by `ended`. -/
structure Alike (service : Service σ) (service' : Service τ) (project job : Value)
    (before : Value → σ → τ → Prop) (ended : σ → τ → Prop) : Prop where
  response : ∀ {token s s'}, before token s s' →
    (service s ⟨project, job, token⟩).response = (service' s' ⟨project, job, token⟩).response
  finished : ∀ {token s s'}, before token s s' →
    ended (service s ⟨project, job, token⟩).state (service' s' ⟨project, job, token⟩).state
  next : ∀ {token s s' page}, before token s s' →
    (service s ⟨project, job, token⟩).response = .ok (some page) → page.next.isNull = false →
    before page.next (service s ⟨project, job, token⟩).state
      (service' s' ⟨project, job, token⟩).state
  stop : ∀ {token s s'}, before token s s' → ended s s'

variable {service : Service σ} {service' : Service τ} {project job : Value}
  {before : Value → σ → τ → Prop} {ended : σ → τ → Prop}
  (h : Alike service service' project job before ended)
include h

/-- Steps of the two walks bring the same, and lead to the same place. -/
theorem advance_alike {token : Value} {s : σ} {s' : τ} (hs : before token s s') :
    ((Cursor.before token).advance service project job s).page
        = ((Cursor.before token).advance service' project job s').page
      ∧ ((Cursor.before token).advance service project job s).cursor
        = ((Cursor.before token).advance service' project job s').cursor := by
  unfold Cursor.advance
  simp only [h.response hs]
  exact ⟨trivial, trivial⟩

/-- **The two walks collect the same.** -/
theorem collect_alike (since : Instant) (limit : Nat) {token : Value} {s : σ} {s' : τ}
    (hs : before token s s') :
    (collect service project job since limit (.before token) s).result
        = (collect service' project job since limit (.before token) s').result
      ∧ ended (collect service project job since limit (.before token) s).state
          (collect service' project job since limit (.before token) s').state := by
  -- only behind a page with a next token the states have to be related by `before` again
  induction limit generalizing token s s' with
  | zero => exact ⟨rfl, h.stop hs⟩
  | succ limit ih =>
    obtain ⟨hpage, hcursor⟩ := advance_alike h hs
    have hended : ended ((Cursor.before token).advance service project job s).state
        ((Cursor.before token).advance service' project job s').state := h.finished hs
    rcases advance_cases service project job since (.before token) s with
      ⟨e, hstep⟩ | hstep | ⟨p, e, hstep, hnew⟩ | ⟨p, found, hstep, hnew⟩
    · rw [collect_of_failure hstep, collect_of_failure (hpage ▸ hstep)]
      exact ⟨rfl, hended⟩
    · rw [collect_of_stop hstep, collect_of_stop (hpage ▸ hstep)]
      exact ⟨rfl, hended⟩
    · rw [collect_of_unreadable hstep hnew, collect_of_unreadable (hpage ▸ hstep) hnew]
      exact ⟨rfl, hended⟩
    · rw [collect_of_page hstep hnew, collect_of_page (hpage ▸ hstep) hnew]
      have hafter := Cursor.cursor_of_page hstep
      simp only [← hcursor, hafter]
      unfold Cursor.after
      cases hnull : p.next.isNull with
      | true =>
        rw [if_pos rfl, Script.collect_ended, Script.collect_ended]
        exact ⟨rfl, hended⟩
      | false =>
        have hresponse : (service s ⟨project, job, token⟩).response = .ok (some p) :=
          (Cursor.settle_eq_page_iff.mp hstep).1
        obtain ⟨hresult, hstate⟩ := ih (h.next hs hresponse hnull)
        rw [if_neg Bool.false_ne_true]
        exact ⟨congrArg _ hresult, hstate⟩

/-- **The two fetches give the same**, and end in related states. -/
theorem fetch_alike (since : Checkpoint) (limit : Nat) {s : σ} {s' : τ} (hs : before .null s s') :
    (fetch service limit project job since s).result
        = (fetch service' limit project job since s').result
      ∧ ended (fetch service limit project job since s).state
          (fetch service' limit project job since s').state := by
  unfold fetch
  cases since.toInstant with
  | error e => exact ⟨rfl, h.stop hs⟩
  | ok start =>
    obtain ⟨hresult, hstate⟩ := collect_alike h start limit hs
    simp only [fetchSince_result, fetchSince_state, Cursor.start]
    rw [hresult]
    exact ⟨rfl, hstate⟩

end Alike

end JobWatch
