/-
  JobWatch.Tail
  ─────────────
  **FOLLOWING A JOB.**

  Tail says where the job is found and how it is cancelled, then polls it and
  writes what is new to the console, with a pause after every poll, until a
  pause is interrupted. Its output goes to a stream, and a text that the
  stream refuses ends it.
-/
import JobWatch.Http.Client
import JobWatch.Job.Link
import JobWatch.Listing.Poll
import JobWatch.Settings

namespace JobWatch

namespace Tail

/-- Why a tail ended other than by interruption. -/
inductive Stop where
  /-- The timeout in the environment is not a number. -/
  | badTimeout
  /-- The environment names no project. -/
  | noProject
  /-- The console page has no address. -/
  | link (e : LinkError)
  /-- A poll failed, or a line could not be printed. -/
  | failure (e : Failure)

/-- Everything that a tail does. -/
structure Run (τ : Type) where
  /-- How it ended. -/
  result : Except Stop Unit
  /-- What it wrote. -/
  stdout : Text := []
  /-- The pauses, in seconds. -/
  pauses : List Nat := []
  /-- The transport afterwards. -/
  state : τ
  /-- What was logged. -/
  log : Log := []

/-- Seconds between two polls. -/
def pause : Nat := 10

/-- What is printed at an interruption. -/
def farewell : List Text := ["\nStopped"]

/-- What is printed first. -/
def header (page command : Text) : List Text :=
  [Text.ofString "Monitoring page: " ++ page, Text.ofString "To cancel:       " ++ command, []]

/-- The texts that are written when lines are printed. -/
def printed (lines : List Text) : List Text := lines.flatMap fun l => [l, [CodePoint.ofChar '\n']]

/-- Prints lines before a run, if the stream takes them. -/
def Run.after {τ : Type} (lines : List Text) (out : TextStream) (s : τ) (run : Run τ) : Run τ :=
  if (printed lines).all out.takes then
    { run with stdout := (printed lines).flatten ++ run.stdout }
  else
    { result := .error (.failure .unencodable), stdout := out.taken (printed lines), state := s }

/-- Polls `rounds` times from an instant; the pause after the last poll is interrupted. -/
def follow {τ : Type} (service : Service τ) (limit : Nat) (project job : Value)
    (out : TextStream) : Nat → Instant → τ → Run τ
  | 0, _, s => Run.after farewell out s { result := .ok (), state := s }
  | rounds + 1, since, s =>
    let polled := pollSince service limit project job since (Handler.console out) s
    let written := (polled.handled.map Console.Written.text).getD []
    match polled.result with
    | .error e =>
      { result := .error (.failure e), stdout := written, state := polled.state
        log := polled.log }
    | .ok next =>
      let rest := follow service limit project job out rounds next polled.state
      { rest with
        stdout := written ++ rest.stdout
        pauses := pause :: rest.pauses
        log := polled.log ++ rest.log }

/-- Follows a job by the settings in an environment, for so many polls. -/
def run {τ : Type} (env : Environment) (job : Value) (rounds limit : Nat) (send : Transport τ)
    (s : τ) (out : TextStream := .memory) (nesting : Nat := Json.usualNesting) : Run τ :=
  match Settings.ofEnvironment? env with
  | none => { result := .error .badTimeout, state := s }
  | some settings =>
    match settings.project with
    | none =>
      Run.after ["Set DATAFLOW_PROJECT to the project owning the job"] out s
        { result := .error .noProject, state := s }
    | some name =>
      let project := Value.text name
      match Job.consolePage project job with
      | .error e => { result := .error (.link e), state := s }
      | .ok page =>
        let service := (Client.ofUrl settings.baseUrl nesting).service send
        Run.after (header page (Job.cancelCommand project job)) out s
          (follow service limit project job out rounds .epoch s)

end Tail

end JobWatch
