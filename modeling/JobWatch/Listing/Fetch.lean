/-
  JobWatch.Listing.Fetch
  ──────────────────────
  **FETCHING WHAT IS NEW.**

  A fetch walks the whole listing of a job and keeps the messages whose
  instant is known and lies after a checkpoint, in order of time, messages of
  one instant as they were listed. A message whose time is an error ends the
  fetch at once.
-/
import JobWatch.Listing.Walk
import JobWatch.Message.Order

namespace JobWatch

/-! ## §1. Checkpoints. -/

/-- The point in time after which messages are new. -/
inductive Checkpoint where
  /-- An instant. -/
  | instant (i : Instant)
  /-- A calendar time. -/
  | zoned (z : ZonedTime)
  /-- Milliseconds since the start of 1970. -/
  | millis (v : Value)

namespace Checkpoint

/-- The start of 1970. -/
def start : Checkpoint := .millis (.int 0)

/-- The instant of a checkpoint. -/
def toInstant : Checkpoint → Except NumberError Instant
  | .instant i => .ok i
  | .zoned z => .ok (.ofZoned z)
  | .millis v => v.toInt.map Instant.ofMillis

end Checkpoint

/-! ## §2. Collecting. -/

/-- A message beside its instant. -/
abbrev Timed := Instant × Message

/-- The messages after `since`, beside their instants, as they stand. -/
def newer (since : Instant) : List Message → Except NumberError (List Timed)
  | [] => .ok []
  | m :: rest =>
    match m.timestamp with
    | .error e => .error e
    | .ok none => newer since rest
    | .ok (some t) =>
      if since.before t then (newer since rest).map ((t, m) :: ·) else newer since rest

/-- What a walk has collected. -/
structure Haul where
  /-- The new messages as they were listed. -/
  messages : List Timed := []
  /-- How many pages were walked. -/
  pages : Nat := 0

/-- The effect of a walk or a fetch. -/
structure Effect (σ α : Type) where
  /-- What came of it. -/
  result : Except Failure α
  /-- The service afterwards. -/
  state : σ
  /-- What was logged on the way. -/
  log : Log

/-- Walks on from a cursor with at most `limit` calls. -/
def collect {σ : Type} (service : Service σ) (project job : Value) (since : Instant) :
    Nat → Cursor → σ → Effect σ Haul
  | _, .ended, s => { result := .ok {}, state := s, log := [] }
  | 0, .before _, s => { result := .error .callLimit, state := s, log := [] }
  | limit + 1, .before token, s =>
    let step := Cursor.advance service project job (.before token) s
    match step.page with
    | .error e => { result := .error e, state := step.state, log := step.log }
    | .ok none => { result := .ok {}, state := step.state, log := step.log }
    | .ok (some page) =>
      match newer since page.content with
      | .error e => { result := .error (.number e), state := step.state, log := step.log }
      | .ok found =>
        let rest := collect service project job since limit step.cursor step.state
        { result := rest.result.map fun haul =>
            { messages := found ++ haul.messages, pages := haul.pages + 1 }
          state := rest.state
          log := step.log ++ rest.log }

/-- Messages in order of their instants; those of one instant stay as they are. -/
def byInstant (ms : List Timed) : List Timed := ms.mergeSort fun a b => !b.1.before a.1

/-! ## §3. Fetching. -/

namespace Monitor

/-- The logger of monitors. -/
def logger : Logger := { name := "dataflow_monitor.monitoring" }

/-- What is logged of a fetch. -/
def report (job : Value) (haul : Haul) : Text :=
  Text.ofString "Fetched " ++ Text.ofNat haul.messages.length
    ++ Text.ofString " new messages for job " ++ job.display ++ Text.ofString " across "
    ++ Text.ofNat haul.pages ++ Text.ofString " pages"

end Monitor

/-- The new messages of a job beside their instants, in order of time. -/
def fetchSince {σ : Type} (service : Service σ) (limit : Nat) (project job : Value)
    (since : Instant) (s : σ) : Effect σ (List Timed) :=
  let walk := collect service project job since limit .start s
  match walk.result with
  | .error e => { result := .error e, state := walk.state, log := walk.log }
  | .ok haul =>
    { result := .ok (byInstant haul.messages)
      state := walk.state
      log := walk.log ++ Monitor.logger.record .debug (Monitor.report job haul) none }

/-- The new messages of a job, in order of time. Nothing is asked if the checkpoint is no point
in time. -/
def fetch {σ : Type} (service : Service σ) (limit : Nat) (project job : Value)
    (since : Checkpoint) (s : σ) : Effect σ (List Message) :=
  match since.toInstant with
  | .error e => { result := .error (.number e), state := s, log := [] }
  | .ok start =>
    let effect := fetchSince service limit project job start s
    { effect with result := effect.result.map fun ms => ms.map Prod.snd }

end JobWatch
