/-
  JobWatch.Listing.Service
  ────────────────────────
  **LISTING SERVICES.**

  A service answers one call for a page of a job's messages at a time: with a
  page, with nothing, or with a failure. It may change with every call, and
  is given as a function on its own state. The simplest service follows a
  script, and answers with nothing once the script is over.
-/
import JobWatch.Failure
import JobWatch.Log
import JobWatch.Message.Basic

namespace JobWatch

/-- A call for one page of messages. -/
structure Call where
  /-- The project that owns the job. -/
  project : Value
  /-- The job. -/
  job : Value
  /-- The token of the page, null for the first. -/
  token : Value

/-- What a service has to say to a call. -/
abbrev Response := Except Failure (Option Page)

/-- The effect of one call. -/
structure Answer (σ : Type) where
  /-- What the service says. -/
  response : Response
  /-- The service after the call. -/
  state : σ
  /-- What was logged on the way. -/
  log : Log

/-- A service with states of type `σ`. -/
abbrev Service (σ : Type) := σ → Call → Answer σ

/-- A service that follows a script and notes the calls. -/
structure Script where
  /-- What is still to be said. -/
  pending : List Response
  /-- The calls so far. -/
  calls : List Call := []

namespace Script

/-- The next response of the script, or nothing when it is over. -/
def service : Service Script := fun s call =>
  match s.pending with
  | [] => { response := .ok none, state := ⟨[], s.calls ++ [call]⟩, log := [] }
  | r :: rest => { response := r, state := ⟨rest, s.calls ++ [call]⟩, log := [] }

end Script

end JobWatch
