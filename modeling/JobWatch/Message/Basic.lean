/-
  JobWatch.Message.Basic
  ──────────────────────
  **JOB MESSAGES AND PAGES OF THEM.**

  A message keeps its time as it came; the instant is decoded on demand. A
  page that is read from a body keeps every entry that is an object and drops
  the rest, and has no next token when the one in the body does not hold.
-/
import JobWatch.Time.Wire

namespace JobWatch

/-! ## §1. Messages. -/

/-- How much a message matters. -/
inductive Importance where
  /-- Something failed. -/
  | error
  /-- Something may be wrong. -/
  | warning
  /-- For the record. -/
  | detailed
  deriving DecidableEq, Repr

namespace Importance

/-- The name that the service gives an importance. -/
def wireName : Importance → Text
  | error => "JOB_MESSAGE_ERROR"
  | warning => "JOB_MESSAGE_WARNING"
  | detailed => "JOB_MESSAGE_DETAILED"

/-- The importance that a field names. -/
def ofValue? : Value → Option Importance
  | .text t => [error, warning, detailed].find? fun i => i.wireName = t
  | _ => none

/-- Every importance is found by its name. -/
theorem ofValue?_wireName (i : Importance) : ofValue? (.text i.wireName) = some i := by
  cases i <;> decide

end Importance

/-- A status message of a job. -/
structure Message where
  /-- The identifier. -/
  id : Value := .null
  /-- What is said. -/
  text : Value := .null
  /-- How much it matters. -/
  importance : Value := .null
  /-- When it was said, as it came. -/
  time : Value := .null

namespace Message

/-- When the message was said; nothing if that is absent or unreadable. -/
def timestamp (m : Message) : Except NumberError (Option Instant) := Instant.ofWire m.time

/-- The message in an entry of a body. -/
def ofFields (fields : Fields) : Message where
  id := (Fields.get "id" fields).textOrNull
  text := (Fields.get "messageText" fields).textOrNull
  importance := (Fields.get "messageImportance" fields).textOrNull
  time := Fields.get "time" fields

/-- What a sink shows of a message: its importance and its text. A message without text, or
whose importance has no name, is not shown. -/
def shown? (m : Message) : Option (Importance × Text) :=
  match m.text, Importance.ofValue? m.importance with
  | .text t, some i => if t.isEmpty then none else some (i, t)
  | _, _ => none

end Message

/-! ## §2. Pages. -/

/-- One page of a listing. -/
structure Page where
  /-- The messages; none when the body has no list of them. -/
  messages : Option (List Message) := none
  /-- The token of the next page, null when this is the last. -/
  next : Value := .null

namespace Page

/-- The fields of an entry that is an object. -/
def entry? : Value → Option Fields
  | .object fields => some fields
  | _ => none

/-- The messages in a field that should be a list. -/
def messagesOf : Value → Option (List Message)
  | .list items => some ((items.filterMap entry?).map Message.ofFields)
  | _ => none

/-- The page in a body. -/
def ofFields (fields : Fields) : Page where
  messages := messagesOf (Fields.get "jobMessages" fields)
  next :=
    let token := Fields.get "nextPageToken" fields
    if token.holds then token else .null

end Page

end JobWatch
