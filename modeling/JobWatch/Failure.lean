/-
  JobWatch.Failure
  ────────────────
  **WHAT CAN GO WRONG WHILE A JOB IS WATCHED.**

  Two failures are the monitor's own: the service could not be reached, or
  it gave an answer that is no page. The others come from what the monitor
  was given: identifiers that cannot stand in an address, numbers and times
  that mean nothing, services and handlers that fail by themselves.
-/
import JobWatch.Time.Instant
import JobWatch.Value.Display

namespace JobWatch

/-- An answer that is no page. -/
structure ApiError where
  /-- The status of the answer. -/
  code : Value
  /-- Its reason phrase, or what is wrong with its body. -/
  message : Value
  /-- The body, where it is worth keeping. -/
  data : Value := .null
  /-- The address that was asked. -/
  url : Value := .null

namespace ApiError

/-- The text of the error. -/
def text (e : ApiError) : Text :=
  Text.ofString "API error " ++ e.code.display ++ Text.ofString ": " ++ e.message.display
    ++ if e.url.holds then Text.ofString " (" ++ e.url.display ++ Text.ofString ")" else []

end ApiError

/-- Why a step of a monitor did not come to its end. -/
inductive Failure where
  /-- The service could not be reached. -/
  | connection (message : Text)
  /-- The service gave an answer that is no page. -/
  | api (e : ApiError)
  /-- The address is not well-formed, or too long. -/
  | invalidUrl
  /-- The address names no host. -/
  | noHost
  /-- A text holds a character that an encoding lacks: a surrogate in an address, or what the
  encoding of a stream has not. -/
  | unencodable
  /-- An identifier is not a text. -/
  | notText
  /-- The body of an answer nests lists and objects too deep. -/
  | tooDeep
  /-- A value does not give a whole number. -/
  | number (e : NumberError)
  /-- A time cannot be built or written. -/
  | time (e : TimeError)
  /-- A service or a handler failed by itself. -/
  | fault (message : Text)
  /-- The walk through a listing needed more calls than it may make. -/
  | callLimit

namespace Failure

/-- The failure is one of the monitor's own. -/
def isMonitoring : Failure → Bool
  | connection _ | api _ => true
  | _ => false

/-- The text of a failure that has one. -/
def text? : Failure → Option Text
  | connection message => some message
  | api e => some e.text
  | fault message => some message
  | time (.nanosOutOfRange n) => some (Text.ofString "nanos out of range: " ++ Text.ofInt n)
  | _ => none

end Failure

end JobWatch
