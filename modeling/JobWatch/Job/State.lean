/-
  JobWatch.Job.State
  ──────────────────
  **THE STATE OF A JOB.**

  Six states, each with a label of its own and the longer name under which
  the service reports it. A report that is none of those names says nothing
  about the job and counts as the unknown state.
-/
import JobWatch.Value.Basic

namespace JobWatch

/-- What a job is doing. -/
inductive JobState where
  /-- Nothing is known. -/
  | unknown
  /-- Not started. -/
  | stopped
  /-- At work. -/
  | running
  /-- Ended well. -/
  | done
  /-- Ended badly. -/
  | failed
  /-- Ended by request. -/
  | cancelled
  deriving DecidableEq, Repr

namespace JobState

/-- All states. -/
def all : List JobState := [unknown, stopped, running, done, failed, cancelled]

/-- The label of a state. -/
def label : JobState → Text
  | unknown => "UNKNOWN"
  | stopped => "STOPPED"
  | running => "RUNNING"
  | done => "DONE"
  | failed => "FAILED"
  | cancelled => "CANCELLED"

/-- The name under which the service reports a state. -/
def reportName (s : JobState) : Text := Text.ofString "JOB_STATE_" ++ s.label

/-- The job will not change any more. -/
def isTerminal : JobState → Bool
  | done | failed | cancelled => true
  | unknown | stopped | running => false

/-- The state with a label. -/
def ofLabel? : Value → Option JobState
  | .text t => all.find? fun s => s.label = t
  | _ => none

/-- The state that a report names. -/
def ofReport : Value → JobState
  | .text t => (all.find? fun s => s.reportName = t).getD unknown
  | _ => unknown

/-- Every state is found by its label. -/
theorem ofLabel?_label (s : JobState) : ofLabel? (.text s.label) = some s := by
  cases s <;> decide

/-- Every state is found by the name of its report. -/
theorem ofReport_reportName (s : JobState) : ofReport (.text s.reportName) = s := by
  cases s <;> decide

end JobState

end JobWatch
