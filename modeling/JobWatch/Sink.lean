/-
  JobWatch.Sink
  ─────────────
  **WHERE BATCHES OF MESSAGES GO.**

  The console sink writes one line for each message that is shown and pushes
  its output out once, at the end of a batch that went well. The log sink
  makes one record for each. Both go through the batch in order and stop at
  the first message whose time is an error. The console stops as well where
  its stream refuses a part of a line; the parts before are then written.
-/
import JobWatch.Failure
import JobWatch.Log
import JobWatch.Message.Basic
import JobWatch.Text.Stream

namespace JobWatch

namespace Message

/-- The canonical text of the time of a message, nothing if the time is unknown. -/
def timeText (m : Message) : Except Failure (Option Text) :=
  match m.timestamp with
  | .error e => .error (.number e)
  | .ok none => .ok none
  | .ok (some i) =>
    match i.canonical with
    | .error e => .error (.time e)
    | .ok t => .ok (some t)

end Message

/-! ## §1. The console. -/

namespace Console

/-- What stands in front of a message of each importance. -/
def label : Importance → Text
  | .error => "Error:   "
  | .warning => "Warning: "
  | .detailed => "Detail:  "

/-- The time at the start of a line. -/
def timePart : Option Text → Text
  | none => "UNKNOWN TIMESTAMP: "
  | some t => t ++ Text.ofString ": "

/-- The line of a message. -/
def line (time : Option Text) (importance : Importance) (text : Text) : Text :=
  timePart time ++ label importance ++ text ++ [CodePoint.ofChar '\n']

/-- The parts in which the line is written. -/
def parts (time : Option Text) (importance : Importance) (text : Text) : List Text :=
  [timePart time, label importance, text ++ [CodePoint.ofChar '\n']]

/-- What the console got from a batch. -/
structure Written where
  /-- The text, also the part before a failure. -/
  text : Text := []
  /-- How often the output was pushed out. -/
  flushes : Nat := 0
  /-- Why the batch was not finished. -/
  failure : Option Failure := none

/-- Writes a batch to a stream. -/
def write (batch : List Message) (out : TextStream := .memory) : Written :=
  match batch with
  | [] => { flushes := 1 }
  | m :: rest =>
    match m.shown? with
    | none => write rest out
    | some (importance, text) =>
      match m.timeText with
      | .error e => { failure := some e }
      | .ok time =>
        if (parts time importance text).all out.takes then
          let after := write rest out
          { after with text := line time importance text ++ after.text }
        else { text := out.taken (parts time importance text), failure := some .unencodable }

end Console

/-! ## §2. The log. -/

namespace LogSink

/-- The level of a message of each importance. -/
def level : Importance → Level
  | .error => .error
  | .warning => .warning
  | .detailed => .debug

/-- The logger that is used when no other is named. -/
def standard : Logger := { name := "dataflow_monitor.handlers" }

/-- What the log got from a batch. -/
structure Recorded where
  /-- The records, also those before a failure. -/
  log : Log := []
  /-- Why the batch was not finished. -/
  failure : Option Failure := none

/-- Records a batch. -/
def write (logger : Logger) : List Message → Recorded
  | [] => {}
  | m :: rest =>
    match m.shown? with
    | none => write logger rest
    | some (importance, text) =>
      match m.timeText with
      | .error e => { failure := some e }
      | .ok time =>
        let after := write logger rest
        { after with
          log := logger.record (level importance) text (some ⟨m.id, time⟩) ++ after.log }

end LogSink

end JobWatch
