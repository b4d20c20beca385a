/-
  JobWatch.Message.Order
  ──────────────────────
  **MESSAGES BY TIME.**

  A message whose time is unknown comes before every message whose time is
  known. The comparator says so of two unknown messages as well, each way
  round, and so is no order there; the sort keeps unknown messages, and
  messages of one instant, as they stood.
-/
import JobWatch.Message.Basic

namespace JobWatch

namespace Instant

/-- How two instants stand to each other. -/
def compare (a b : Instant) : Ordering :=
  if a.before b then .lt else if b.before a then .gt else .eq

/-- What is unknown comes first; instants come by time. -/
def keyLe : Option Instant → Option Instant → Bool
  | none, _ => true
  | some _, none => false
  | some a, some b => !b.before a

end Instant

namespace Message

/-- How two messages stand to each other by time; the second is looked at only when the time of
the first is known. -/
def compare (a b : Message) : Except NumberError Ordering :=
  match a.timestamp with
  | .error e => .error e
  | .ok none => .ok .lt
  | .ok (some s) =>
    match b.timestamp with
    | .error e => .error e
    | .ok none => .ok .gt
    | .ok (some t) => .ok (s.compare t)

/-- The message beside its instant. -/
def timed (m : Message) : Except NumberError (Option Instant × Message) :=
  match m.timestamp with
  | .error e => .error e
  | .ok t => .ok (t, m)

/-- Messages beside their instants, in order of time. -/
def sortTimed (ms : List (Option Instant × Message)) : List (Option Instant × Message) :=
  ms.mergeSort fun a b => Instant.keyLe a.1 b.1

/-- The messages in order of time. -/
def sort (ms : List Message) : Except NumberError (List Message) :=
  match ms.mapM timed with
  | .error e => .error e
  | .ok ts => .ok ((sortTimed ts).map Prod.snd)

end Message

end JobWatch
