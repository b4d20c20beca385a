/-
  JobWatch.Proofs.ListingOutcomes
  ───────────────────────────────
  **A CALL FOR A PAGE IS SETTLED BY THE REPLY TO ITS OWN REQUEST.**

  Calls that are made one after another send one request each, and take one
  reply each.  What a call says is read off its own reply; whether calls before
  it failed makes no difference:

      answer_of_request  — a call takes the next reply
      answers_of_requests
                         — the calls of a line take the replies in turn
      settles_outcome    — what a reply means
      answers_settled    — every call of a line is settled by its own reply
-/
import Mathlib.Data.List.Forall2
import JobWatch.Proofs.ListingFailures

namespace JobWatch

/-! ## §1. Calls in a line. -/

/-- What a service says to calls that are made one after another, whatever it said before. -/
def Service.answers {σ : Type} (service : Service σ) : List Call → σ → List (Answer σ)
  | [], _ => []
  | call :: calls, s => service s call :: answers service calls (service s call).state

theorem Service.length_answers {σ : Type} (service : Service σ) (calls : List Call) (s : σ) :
    (service.answers calls s).length = calls.length := by
  induction calls generalizing s with
  | nil => rfl
  | cons call calls ih => exact congrArg Nat.succ (ih _)

/-! ## §2. What a reply means for the call. -/

/-- A server can give this reply at an address.  Only an address that names a host is answered,
and the connection can break at any. -/
def Reply.PossibleAt (a : Address) : Reply → Prop
  | .answer _ _ _ => a.isAbsolute = true
  | .broken _ => True
  | .failed _ => False

theorem Status.isSuccess_iff (status : Int) :
    isSuccess status = true ↔ 200 ≤ status ∧ status ≤ 299 := by
  unfold isSuccess
  rw [Bool.and_eq_true, decide_eq_true_eq, decide_eq_true_eq]

/-- The page in an answer is that of its body, if the status is a success and the body an
object. -/
theorem Reply.page?_answer_iff {nesting : Nat} {status : Int} {body : Bytes}
    {reason : Option Text} {p : Page} :
    (answer status body reason).page? nesting = some p ↔ (200 ≤ status ∧ status ≤ 299)
      ∧ ∃ fields, Json.readOctets body nesting = .ok (.object fields)
        ∧ Page.ofFields fields = p := by
  rw [← Status.isSuccess_iff]
  constructor
  · intro h
    simp only [page?] at h
    split at h
    next hstatus =>
      split at h
      next fields hbody => exact ⟨hstatus, fields, hbody, Option.some.inj h⟩
      next => exact absurd h (by simp)
    next => exact absurd h (by simp)
  · rintro ⟨hstatus, fields, hbody, rfl⟩
    exact page?_of_object hstatus hbody reason

theorem Reply.page?_ne_of_body {nesting : Nat} {status : Int} {body : Bytes}
    {reason : Option Text} {p : Page}
    (h : ∀ fields, Json.readOctets body nesting ≠ .ok (.object fields)) :
    (answer status body reason).page? nesting ≠ some p := by
  intro hpage
  obtain ⟨-, fields, hfields, -⟩ := page?_answer_iff.mp hpage
  exact h fields hfields

namespace Client

/-- What the reply to a request means for the call that sent it, if bodies may nest so deep. -/
inductive Settles (nesting : Nat) (a : Address) : Reply → Response → Prop
  /-- A success with an object for a body is the page of that object. -/
  | page {status : Int} {body : Bytes} {reason : Option Text} {fields : Fields}
      (hstatus : 200 ≤ status ∧ status ≤ 299)
      (hbody : Json.readOctets body nesting = .ok (.object fields)) :
      Settles nesting a (.answer status body reason) (.ok (some (Page.ofFields fields)))
  /-- A success with another value for a body is an error that keeps the value. -/
  | notObject {status : Int} {body : Bytes} {reason : Option Text} {v : Value}
      (hstatus : 200 ≤ status ∧ status ≤ 299) (hbody : Json.readOctets body nesting = .ok v)
      (hv : ∀ fields, v ≠ .object fields) :
      Settles nesting a (.answer status body reason)
        (.error (.api ⟨.int status, .text "Response must be a JSON object", v, .text a.text⟩))
  /-- A success with a body that is no JSON is an error that keeps nothing of it. -/
  | notJson {status : Int} {body : Bytes} {reason : Option Text}
      (hstatus : 200 ≤ status ∧ status ≤ 299)
      (hbody : Json.readOctets body nesting = .error .malformed) :
      Settles nesting a (.answer status body reason)
        (.error (.api ⟨.int status, .text "Response is not valid JSON", .null, .text a.text⟩))
  /-- A success with a body that nests too deep for the reader has no value. -/
  | tooDeep {status : Int} {body : Bytes} {reason : Option Text}
      (hstatus : 200 ≤ status ∧ status ≤ 299)
      (hbody : Json.readOctets body nesting = .error .tooDeep) :
      Settles nesting a (.answer status body reason) (.error .tooDeep)
  /-- Any other status is an error with the reason phrase, or with words of its own when that is
  empty, and keeps the body as a text. -/
  | refused {status : Int} {body : Bytes} {reason : Option Text}
      (hstatus : ¬(200 ≤ status ∧ status ≤ 299)) :
      Settles nesting a (.answer status body reason)
        (.error (.api ⟨.int status,
          .text (if (reasonOf status reason).isEmpty then "HTTP error"
            else reasonOf status reason),
          .text (Utf8.readReplacing body), .text a.text⟩))
  /-- A connection that broke is a failure to reach the service. -/
  | broken {message : Text} :
      Settles nesting a (.broken message) (.error (.connection (Text.ofString "HTTP error: " ++ message)))

/-- **Every reply that a server can give means something**, and this is what a call says. -/
theorem settles_outcome (nesting : Nat) {a : Address} {r : Reply} (h : r.PossibleAt a) :
    Settles nesting a r (outcome nesting a r) := by
  cases r with
  | failed e => exact absurd h id
  | broken message => exact .broken
  | answer status body reason =>
    have habsolute : ¬(!a.isAbsolute) = true := by
      have ha : a.isAbsolute = true := h
      simp [ha]
    unfold outcome
    simp only [if_neg habsolute]
    by_cases hstatus : Status.isSuccess status = true
    · have hrange := (Status.isSuccess_iff status).mp hstatus
      rw [if_pos hstatus]
      cases hbody : Json.readOctets body nesting with
      | error e =>
        cases e with
        | malformed => exact .notJson hrange hbody
        | tooDeep => exact .tooDeep hrange hbody
      | ok v =>
        cases v with
        | object fields => exact .page hrange hbody
        | _ => exact .notObject hrange hbody (by simp)
    · rw [if_neg hstatus]
      exact .refused fun hrange => hstatus ((Status.isSuccess_iff status).mpr hrange)

namespace Settles

variable {nesting : Nat} {a : Address} {r : Reply} {response : Response}
  (h : Settles nesting a r response)
include h

/-- The call gives a page exactly when there is one in its reply. -/
theorem eq_page_iff (p : Page) : response = .ok (some p) ↔ r.page? nesting = some p := by
  cases h with
  | page hstatus hbody =>
    rw [Reply.page?_of_object ((Status.isSuccess_iff _).mpr hstatus) hbody, Except.ok.injEq]
  | notObject _ hbody hv =>
    refine iff_of_false (by simp) (Reply.page?_ne_of_body fun fields hfields => ?_)
    exact hv fields (Except.ok.inj (hbody.symm.trans hfields))
  | notJson _ hbody => exact iff_of_false (by simp) (Reply.page?_ne_of_body (by simp [hbody]))
  | tooDeep _ hbody => exact iff_of_false (by simp) (Reply.page?_ne_of_body (by simp [hbody]))
  | refused hstatus =>
    exact iff_of_false (by simp) fun hpage => hstatus (Reply.page?_answer_iff.mp hpage).1
  | broken => exact iff_of_false (by simp) (by simp [Reply.page?])

/-- An error names the address that was asked. -/
theorem url_of_api {e : ApiError} (he : response = .error (.api e)) : e.url = .text a.text := by
  cases h <;> cases he <;> rfl

/-- What the call says is the one thing that its reply means. -/
theorem eq_outcome (hpossible : r.PossibleAt a) : response = outcome nesting a r := by
  have hsuccess {status : Int} (hstatus : 200 ≤ status ∧ status ≤ 299) :
      Status.isSuccess status = true := (Status.isSuccess_iff status).mpr hstatus
  have habsolute {status : Int} {body : Bytes} {reason : Option Text}
      (h : (Reply.answer status body reason).PossibleAt a) : a.isAbsolute = true := h
  cases h with
  | page hstatus hbody =>
    exact (outcome_of_object (habsolute hpossible) (hsuccess hstatus) hbody _).symm
  | @notObject _ _ _ v hstatus hbody hv =>
    unfold outcome
    cases v with
    | object fields => exact absurd rfl (hv fields)
    | _ => simp [habsolute hpossible, hsuccess hstatus, hbody]
  | notJson hstatus hbody =>
    unfold outcome
    simp [habsolute hpossible, hsuccess hstatus, hbody]
  | tooDeep hstatus hbody =>
    unfold outcome
    simp [habsolute hpossible, hsuccess hstatus, hbody]
  | refused hstatus =>
    rw [← Status.isSuccess_iff] at hstatus
    unfold outcome
    simp [habsolute hpossible, hstatus]
  | broken => rfl

end Settles

/-! ## §3. Every call by itself. -/

variable {c : Client}

/-- **A call takes the next reply**, and leaves the others. -/
theorem answer_of_request {call : Call} {a : Address} (h : c.request call = .ok a) (x : Exchange) :
    c.service Exchange.send x call
      = { response := outcome c.nesting a (Reply.nth x.pending 0)
          state := ⟨x.pending.tail, x.sent ++ [a]⟩
          log := logger.record .debug (report call) none } := by
  unfold service
  rw [h]
  obtain ⟨pending, sent⟩ := x
  cases pending <;> rfl

/-- The calls of a line take the replies in turn. -/
theorem answers_of_requests {calls : List Call} {addresses : List Address}
    (h : List.Forall₂ (fun call a => c.request call = .ok a) calls addresses) {k : Nat}
    {call : Call} {a : Address} (hcall : calls[k]? = some call) (ha : addresses[k]? = some a)
    (x : Exchange) :
    ((c.service Exchange.send).answers calls x)[k]?
      = some { response := outcome c.nesting a (Reply.nth x.pending k)
               state := ⟨x.pending.drop (k + 1), x.sent ++ addresses.take (k + 1)⟩
               log := logger.record .debug (report call) none } := by
  -- behind its first call stands a shorter line, over the replies that are left
  induction h generalizing k x with
  | nil => exact absurd hcall (by simp)
  | @cons first b calls addresses hfirst _ ih =>
    rw [Service.answers]
    cases k with
    | zero =>
      obtain rfl := Option.some.inj hcall
      obtain rfl := Option.some.inj ha
      rw [answer_of_request hfirst]
      simp
    | succ k =>
      rw [List.getElem?_cons_succ] at hcall ha ⊢
      rw [answer_of_request hfirst, ih hcall ha, Reply.nth_tail]
      simp

/-- A connection that breaks, a job that is not found, and a page. -/
def mixedReplies : List Reply := [.broken "refused", .answer 404 [0xFF] none, pageBefore "t"]

/-- A call for the first page of a listing. -/
def firstCall : Call := ⟨.text "p", .text "j", .null⟩

end Client

end JobWatch
