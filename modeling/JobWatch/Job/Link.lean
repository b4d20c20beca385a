/-
  JobWatch.Job.Link
  ─────────────────
  **WHERE A JOB IS FOUND, AND HOW IT IS STOPPED.**

  The console page of a job has the project and the job as path segments; an
  identifier that UTF-8 cannot carry is reported by the first run of
  surrogates in it. The command that stops a job has both as they are.
-/
import JobWatch.Uri.Percent
import JobWatch.Value.Display

namespace JobWatch

/-- Why an identifier cannot be part of a console address. -/
inductive LinkError where
  /-- It is not a text. -/
  | notText
  /-- It holds surrogates, first this run at this position. -/
  | surrogates (position : Nat) (run : Text)
  deriving DecidableEq

namespace LinkError

/-- Which characters stand where. -/
def place (position : Nat) : Text → Text
  | [c] =>
    Text.ofString "character '\\u" ++ Text.hex 4 c.val ++ Text.ofString "' in position "
      ++ Text.ofNat position
  | run =>
    Text.ofString "characters in position " ++ Text.ofNat position ++ Text.ofString "-"
      ++ Text.ofNat (position + run.length - 1)

/-- The text of the error, for the errors that have one. -/
def text? : LinkError → Option Text
  | notText => none
  | surrogates position run =>
    some (Text.ofString "Cannot encode job identifiers as UTF-8: 'utf-8' codec can't encode "
      ++ place position run ++ Text.ofString ": surrogates not allowed")

end LinkError

namespace Job

/-- An identifier as a path segment. -/
def segment : Value → Except LinkError Text
  | .text t =>
    match t.firstBadRun? with
    | some (position, run) => .error (.surrogates position run)
    | none => .ok (Percent.encode t)
  | _ => .error .notText

/-- The page of a job in the developers console. -/
def consolePage (project job : Value) : Except LinkError Text :=
  match segment project with
  | .error e => .error e
  | .ok p =>
    match segment job with
    | .error e => .error e
    | .ok j =>
      .ok (Text.ofString "https://console.developers.google.com/project/" ++ p
        ++ Text.ofString "/dataflow/job/" ++ j)

/-- The command that cancels a job. -/
def cancelCommand (project job : Value) : Text :=
  Text.ofString "gcloud alpha dataflow jobs --project=" ++ project.display
    ++ Text.ofString " cancel " ++ job.display

end Job

end JobWatch
