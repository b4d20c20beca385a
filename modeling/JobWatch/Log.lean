/-
  JobWatch.Log
  ────────────
  **LOG RECORDS.**

  A record has the name of its logger, a level and a text; a record that
  stands for a job message also carries the message's identifier and time. A
  logger with a threshold keeps the records at or above it.
-/
import JobWatch.Value.Basic

namespace JobWatch

/-- How urgent a record is. -/
inductive Level where
  /-- For the developer. -/
  | debug
  /-- For the record. -/
  | info
  /-- Something may be wrong. -/
  | warning
  /-- Something failed. -/
  | error
  /-- Nothing works; no record here is as urgent. -/
  | critical
  deriving DecidableEq, Repr

namespace Level

/-- The name of a level. -/
def label : Level → Text
  | debug => "DEBUG"
  | info => "INFO"
  | warning => "WARNING"
  | error => "ERROR"
  | critical => "CRITICAL"

/-- The rank of a level. -/
def rank : Level → Nat
  | debug => 10
  | info => 20
  | warning => 30
  | error => 40
  | critical => 50

/-- The level with a name. -/
def ofLabel? (t : Text) : Option Level :=
  [debug, info, warning, error, critical].find? fun l => l.label = t

end Level

/-- The job message that a record stands for. -/
structure MessageTag where
  /-- The identifier of the message. -/
  id : Value
  /-- The time of the message in canonical form, if it is known. -/
  time : Option Text

/-- One line of a log. -/
structure LogRecord where
  /-- The name of the logger. -/
  logger : Text
  /-- How urgent the record is. -/
  level : Level
  /-- What it says. -/
  message : Text
  /-- The job message that it stands for. -/
  tag : Option MessageTag := none

/-- The records of one thing done, in order. -/
abbrev Log := List LogRecord

/-- A place where records go. -/
structure Logger where
  /-- The name that records carry. -/
  name : Text
  /-- Records below this level are dropped. -/
  threshold : Level := .debug

namespace Logger

/-- The record if the logger keeps its level. -/
def record (l : Logger) (level : Level) (message : Text) (tag : Option MessageTag) : Log :=
  if l.threshold.rank ≤ level.rank then [⟨l.name, level, message, tag⟩] else []

end Logger

end JobWatch
