/-
  JobWatch.Listing.Poll
  ─────────────────────
  **POLLING.**

  A poll fetches what is new since a checkpoint, hands it to a handler in one
  batch, and gives the checkpoint for the next poll: the instant of the last
  message of the batch, or the old one if the batch was empty. If the fetch
  fails the handler is not called, and if either fails there is no new
  checkpoint. A handler may act on the world that the service lives in.
-/
import JobWatch.Listing.Fetch
import JobWatch.Sink

namespace JobWatch

/-- What a handler made of a batch, and why it failed if it did. -/
structure Handling (ρ : Type) where
  /-- What it made. -/
  outcome : ρ
  /-- Why it failed. -/
  failure : Option Failure

/-- Takes a batch of messages. -/
abbrev Handler (ρ : Type) := List Message → Handling ρ

namespace Handler

/-- Writes to the console, on a stream. -/
def console (out : TextStream := .memory) : Handler Console.Written := fun batch =>
  let written := Console.write batch out
  ⟨written, written.failure⟩

/-- Writes to a log. -/
def log (logger : Logger) : Handler LogSink.Recorded := fun batch =>
  let recorded := LogSink.write logger batch
  ⟨recorded, recorded.failure⟩

/-- Keeps the batch. -/
def keep : Handler (List Message) := fun batch => ⟨batch, none⟩

/-- Keeps the batch and fails with a text. -/
def fail (message : Text) : Handler (List Message) := fun batch => ⟨batch, some (.fault message)⟩

end Handler

/-- Takes a batch of messages and acts on the world that the service lives in. -/
abbrev Agent (σ ρ : Type) := List Message → σ → Handling ρ × σ

/-- A handler as an agent that leaves the world as it is. -/
def Handler.agent {σ ρ : Type} (handler : Handler ρ) : Agent σ ρ := fun batch s =>
  (handler batch, s)

/-- The effect of a poll. -/
structure Polled (σ ρ : Type) where
  /-- The checkpoint for the next poll. -/
  result : Except Failure Instant
  /-- What the handler made of the batch, nothing if it was not called. -/
  handled : Option ρ
  /-- The service afterwards. -/
  state : σ
  /-- What was logged while fetching. -/
  log : Log

/-- The checkpoint after a batch. -/
def checkpointAfter (start : Instant) (batch : List Timed) : Instant :=
  match batch.getLast? with
  | none => start
  | some (t, _) => t

/-- Polls from an instant for an agent. -/
def pollSinceWith {σ ρ : Type} (service : Service σ) (limit : Nat) (project job : Value)
    (start : Instant) (agent : Agent σ ρ) (s : σ) : Polled σ ρ :=
  let fetched := fetchSince service limit project job start s
  match fetched.result with
  | .error e => { result := .error e, handled := none, state := fetched.state, log := fetched.log }
  | .ok batch =>
    let (handling, world) := agent (batch.map Prod.snd) fetched.state
    { result := match handling.failure with
        | some e => .error e
        | none => .ok (checkpointAfter start batch)
      handled := some handling.outcome
      state := world
      log := fetched.log }

/-- Polls from a checkpoint for an agent. Nothing is asked if the checkpoint is no point in
time. -/
def pollWith {σ ρ : Type} (service : Service σ) (limit : Nat) (project job : Value)
    (since : Checkpoint) (agent : Agent σ ρ) (s : σ) : Polled σ ρ :=
  match since.toInstant with
  | .error e => { result := .error (.number e), handled := none, state := s, log := [] }
  | .ok start => pollSinceWith service limit project job start agent s

/-- Polls from an instant. -/
def pollSince {σ ρ : Type} (service : Service σ) (limit : Nat) (project job : Value)
    (start : Instant) (handler : Handler ρ) (s : σ) : Polled σ ρ :=
  pollSinceWith service limit project job start handler.agent s

/-- Polls from a checkpoint. -/
def poll {σ ρ : Type} (service : Service σ) (limit : Nat) (project job : Value)
    (since : Checkpoint) (handler : Handler ρ) (s : σ) : Polled σ ρ :=
  pollWith service limit project job since handler.agent s

end JobWatch
