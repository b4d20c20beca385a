/-
  JobWatch.Listing.Walk
  ─────────────────────
  **WALKING A LISTING PAGE BY PAGE.**

  A cursor stands before a page, whose token it holds, or at the end. One
  step asks for the page: a page with messages is what the step brings, and
  the cursor moves on by the page's next token; a page without messages, no
  page, or a failure ends the walk. At the end a step asks for nothing.
-/
import JobWatch.Listing.Service

namespace JobWatch

/-- A place in a listing. -/
inductive Cursor where
  /-- Before the page with this token, null for the first page. -/
  | before (token : Value)
  /-- At the end. -/
  | ended

/-- What one step of a walk brings. -/
structure Step (σ : Type) where
  /-- The page, nothing at the end. -/
  page : Response
  /-- Where the walk stands. -/
  cursor : Cursor
  /-- The service after the step. -/
  state : σ
  /-- What was logged on the way. -/
  log : Log

namespace Page

/-- The messages of a page, none if the body had no list of them. -/
def content (p : Page) : List Message := p.messages.getD []

end Page

namespace Cursor

/-- Before the first page. -/
def start : Cursor := .before .null

/-- Behind a page: before its next one, or at the end if it has none. -/
def after (p : Page) : Cursor := if p.next.isNull then .ended else .before p.next

/-- The response and the cursor behind it. -/
def settle : Response → Response × Cursor
  | .error e => (.error e, .ended)
  | .ok none => (.ok none, .ended)
  | .ok (some p) => if p.content.isEmpty then (.ok none, .ended) else (.ok (some p), after p)

/-- One step through the listing of a job. -/
def advance {σ : Type} (service : Service σ) (project job : Value) (cursor : Cursor) (s : σ) :
    Step σ :=
  match cursor with
  | .ended => { page := .ok none, cursor := .ended, state := s, log := [] }
  | .before token =>
    let answer := service s { project, job, token }
    let (page, cursor) := settle answer.response
    { page, cursor, state := answer.state, log := answer.log }

end Cursor

end JobWatch
