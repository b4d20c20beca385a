/-
  JobWatch.Http.Session
  ─────────────────────
  **WHO CLOSES A CONNECTION.**

  A session that opened its connection closes it at the end; a session that
  was handed one leaves it open for its owner.
-/
import JobWatch.Http.Client
import JobWatch.Settings

namespace JobWatch

/-- A client in use. -/
structure Session where
  /-- The address of the service, without slashes at its end. -/
  url : Text
  /-- How many seconds a request may take. -/
  timeout : Value
  /-- The session opened the connection itself. -/
  owned : Bool
  /-- The connection is closed. -/
  closed : Bool := false

namespace Session

/-- Begins a session, with the usual address and timeout where none is given. -/
def start (url : Option Text) (timeout : Option Value) (handed : Bool) : Session where
  url := (Client.ofUrl (url.getD Settings.defaultUrl)).base
  timeout := timeout.getD (.float Settings.defaultTimeout)
  owned := !handed

/-- Begins a session by settings. -/
def ofSettings (s : Settings) : Session := start (some s.baseUrl) (some (.float s.timeout)) false

/-- Ends a session. -/
def finish (s : Session) : Session := { s with closed := s.closed || s.owned }

end Session

end JobWatch
