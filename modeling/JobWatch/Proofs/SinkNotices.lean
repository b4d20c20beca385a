/-
  JobWatch.Proofs.SinkNotices
  ───────────────────────────
  **WHAT A SINK MAKES OF A BATCH.**

  A sink passes over the messages that are not shown, makes a notice of each
  of the others, and stops at the first of them whose time is an error.  That
  goes for the console and for the log alike; they differ in what a notice
  looks like.  Nothing else stops them, because what can be decoded can also
  be written:

      renders_of_ofWire  — a decoded instant has every written form
      sink_induction     — the course of a sink through a batch
      Console.write_eq   — the console writes the notices of any batch, and
      LogSink.write_eq   — the log records them
      forall₂_notices    — which messages have the notices
      reached_cases      — how far a sink comes
      stop?_isSome_iff   — when it stops
      decoded_renders    — no batch that was fetched stops a sink
-/
import Mathlib.Data.List.Forall2
import Mathlib.Data.List.TakeWhile
import JobWatch.Proofs.ConsoleText
import JobWatch.Proofs.PageWalk

namespace JobWatch

/-! ## §1. Decoded instants. -/

namespace Instant

/-- The instant lies in the calendar and has every form in which instants are written. -/
structure Renders (i : Instant) : Prop where
  /-- The nanoseconds do not make up a second. -/
  nanos : i.nanos < nanosPerSecond
  /-- The seconds are those of the calendar. -/
  seconds : minSeconds ≤ i.seconds ∧ i.seconds ≤ maxSeconds
  /-- There is a calendar time, of the same second. -/
  calendar : ∃ time, i.calendarTime = .ok time ∧ time.epochSeconds = i.seconds
  /-- There is a canonical text. -/
  canonical : ∃ t, i.canonical = .ok t
  /-- There is a wire form. -/
  wire : ∃ t, i.toWire = .ok t

/-- **What can be decoded can be written**, in every form. -/
theorem renders_of_ofWire {v : Value} {i : Instant} (h : ofWire v = .ok (some i)) : i.Renders := by
  have hrange := range_of_ofWire h
  obtain ⟨time, htime⟩ := calendarTime_of_range hrange
  exact ⟨i.nanos_lt, hrange, ⟨time, htime, epochSeconds_of_calendarTime htime⟩,
    canonical_of_range hrange, ⟨_, toWire_eq htime⟩⟩

end Instant

/-! ## §2. Messages that are shown. -/

theorem Importance.ofValue?_eq_some_iff (v : Value) (i : Importance) :
    ofValue? v = some i ↔ v = .text i.wireName := by
  constructor
  · intro h
    cases v with
    | text t =>
      have hname := List.find?_some h
      rw [decide_eq_true_eq] at hname
      rw [hname]
    | _ => exact absurd h (by simp [ofValue?])
  · intro h
    rw [h]
    exact ofValue?_wireName i

namespace Message

/-- A sink shows `text` under `importance`: they are what the fields of the message hold, and
there is something to show. -/
def Shows (m : Message) (importance : Importance) (text : Text) : Prop :=
  m.text = .text text ∧ text ≠ [] ∧ m.importance = .text importance.wireName

theorem shown?_eq_some_iff (m : Message) (importance : Importance) (text : Text) :
    m.shown? = some (importance, text) ↔ m.Shows importance text := by
  unfold shown? Shows
  constructor
  · intro h
    split at h
    next t i htext himportance =>
      split at h
      next => exact absurd h (by simp)
      next hne =>
        obtain ⟨rfl, rfl⟩ := Prod.mk.inj (Option.some.inj h)
        exact ⟨htext, by simpa using hne, (Importance.ofValue?_eq_some_iff _ _).mp himportance⟩
    next => exact absurd h (by simp)
  · rintro ⟨htext, hne, himportance⟩
    rw [htext, (Importance.ofValue?_eq_some_iff _ _).mpr himportance]
    exact if_neg (by simpa using hne)

/-- The message is one that sinks show. -/
def isShown (m : Message) : Bool := m.shown?.isSome

theorem isShown_iff (m : Message) : m.isShown = true ↔ ∃ i t, m.Shows i t := by
  unfold isShown
  rw [Option.isSome_iff_exists]
  constructor
  · rintro ⟨⟨i, t⟩, h⟩
    exact ⟨i, t, (shown?_eq_some_iff m i t).mp h⟩
  · rintro ⟨i, t, h⟩
    exact ⟨(i, t), (shown?_eq_some_iff m i t).mpr h⟩

/-- What stops a sink at a message that is shown: its time is an error. -/
def fault? (m : Message) : Option NumberError :=
  match m.shown?, m.timestamp with
  | some _, .error e => some e
  | _, _ => none

theorem fault?_eq_some_iff (m : Message) (e : NumberError) :
    m.fault? = some e ↔ m.isShown = true ∧ m.timestamp = .error e := by
  unfold fault? isShown
  cases m.shown? with
  | none => simp
  | some shown => cases m.timestamp <;> simp

/-- Nothing stops a sink at a message whose time can be decoded. -/
theorem fault?_of_readable {m : Message} (h : m.Readable) : m.fault? = none := by
  obtain ⟨t, ht⟩ := h
  rw [Option.eq_none_iff_forall_ne_some]
  intro e he
  have herror := ((fault?_eq_some_iff m e).mp he).2
  rw [ht] at herror
  exact absurd herror (by simp)

/-- A shown message at which nothing stops a sink can be decoded. -/
theorem readable_of_fault? {m : Message} (hshown : m.isShown = true) (h : m.fault? = none) :
    m.Readable := by
  cases ht : m.timestamp with
  | ok t => exact ⟨t, ht⟩
  | error e =>
    rw [(fault?_eq_some_iff m e).mpr ⟨hshown, ht⟩] at h
    exact absurd h (by simp)

theorem timeText_of_error {m : Message} {e : NumberError} (h : m.timestamp = .error e) :
    m.timeText = .error (.number e) := by
  unfold timeText
  rw [h]

end Message

/-! ## §3. What a sink gives of a message. -/

/-- A message as a sink gives it. -/
structure Notice where
  /-- The identifier of the message. -/
  id : Value
  /-- The time in canonical form, if it is known. -/
  time : Option Text
  /-- How much it matters. -/
  importance : Importance
  /-- What is said. -/
  text : Text

namespace Notice

/-- The notice is about the message. -/
structure IsOf (n : Notice) (m : Message) : Prop where
  id : n.id = m.id
  time : m.timeText = .ok n.time
  shows : m.Shows n.importance n.text

/-- The line on the console. -/
def line (n : Notice) : Text := Console.line n.time n.importance n.text

/-- The record in a log. -/
def record (logger : Logger) (n : Notice) : LogRecord :=
  ⟨logger.name, LogSink.level n.importance, n.text, some ⟨n.id, n.time⟩⟩

end Notice

/-- The notice of a message that is shown, if its time can be decoded. -/
def Message.notice? (m : Message) : Option Notice :=
  match m.shown?, m.timeText with
  | some (importance, text), .ok time => some ⟨m.id, time, importance, text⟩
  | _, _ => none

/-- The messages of a batch that a sink reaches: those before the first that stops it. -/
def reached (ms : List Message) : List Message := ms.takeWhile fun m => m.fault?.isNone

/-- What a sink gives of a batch. -/
def notices (ms : List Message) : List Notice := (reached ms).filterMap Message.notice?

/-- Why a sink stops within a batch, if it does. -/
def stop? (ms : List Message) : Option Failure := (ms.findSome? Message.fault?).map .number

section Cons

variable {m : Message} (ms : List Message)

theorem notices_cons_of_fault {e : NumberError} (h : m.fault? = some e) :
    notices (m :: ms) = [] := by
  unfold notices reached
  rw [List.takeWhile_cons_of_neg (by simp [h])]
  rfl

theorem notices_cons_of_hidden (h : m.shown? = none) : notices (m :: ms) = notices ms := by
  have hfault : m.fault? = none := by
    unfold Message.fault?
    rw [h]
  have hnotice : m.notice? = none := by
    unfold Message.notice?
    rw [h]
  unfold notices reached
  rw [List.takeWhile_cons_of_pos (by simp [hfault]), List.filterMap_cons_none hnotice]

theorem notices_cons_of_notice {n : Notice} (hfault : m.fault? = none) (h : m.notice? = some n) :
    notices (m :: ms) = n :: notices ms := by
  unfold notices reached
  rw [List.takeWhile_cons_of_pos (by simp [hfault]), List.filterMap_cons_some h]

theorem stop?_cons_of_fault {e : NumberError} (h : m.fault? = some e) :
    stop? (m :: ms) = some (.number e) := by
  unfold stop?
  rw [List.findSome?_cons, h]
  rfl

theorem stop?_cons_of_none (h : m.fault? = none) : stop? (m :: ms) = stop? ms := by
  unfold stop?
  rw [List.findSome?_cons, h]

end Cons

namespace Message

/-- What a message can be to a sink: one it passes over, one that stops it, or one it gives. -/
theorem sink_cases (m : Message) :
    m.shown? = none ∧ m.fault? = none
      ∨ (∃ i t e, m.shown? = some (i, t) ∧ m.timeText = .error (.number e) ∧ m.fault? = some e)
      ∨ ∃ i t time, m.shown? = some (i, t) ∧ m.timeText = .ok time ∧ m.fault? = none
          ∧ m.notice? = some ⟨m.id, time, i, t⟩ := by
  cases hshown : m.shown? with
  | none =>
    refine Or.inl ⟨rfl, ?_⟩
    unfold fault?
    rw [hshown]
  | some shown =>
    obtain ⟨i, t⟩ := shown
    cases hfault : m.fault? with
    | some e =>
      have herror := ((fault?_eq_some_iff m e).mp hfault).2
      exact Or.inr (Or.inl ⟨i, t, e, rfl, timeText_of_error herror, rfl⟩)
    | none =>
      have hisShown : m.isShown = true := by
        unfold isShown
        rw [hshown]
        rfl
      -- a time that can be decoded can also be written
      obtain ⟨time, htime⟩ := timeText_of_readable (readable_of_fault? hisShown hfault)
      refine Or.inr (Or.inr ⟨i, t, time, rfl, htime, rfl, ?_⟩)
      unfold notice?
      rw [hshown, htime]

/-- The notice of a message is the one that is about it. -/
theorem notice?_eq_some_iff (m : Message) (n : Notice) : m.notice? = some n ↔ n.IsOf m := by
  unfold notice?
  constructor
  · intro h
    split at h
    next i t time hshown htime =>
      obtain rfl := Option.some.inj h
      exact ⟨rfl, htime, (shown?_eq_some_iff m i t).mp hshown⟩
    next => exact absurd h (by simp)
  · rintro ⟨hid, htime, hshows⟩
    rw [(shown?_eq_some_iff m _ _).mpr hshows, htime, ← hid]

end Message

/-- **The course of a sink through a batch**: it passes over a message, is stopped by one, or
gives one.  What goes with the notices and the stop in each of these cases goes with them for
every batch. -/
theorem sink_induction {motive : List Message → List Notice → Option Failure → Prop}
    (nil : motive [] [] none)
    (hidden : ∀ m ms ns stop, m.shown? = none → motive ms ns stop → motive (m :: ms) ns stop)
    (fault : ∀ m ms i t e, m.shown? = some (i, t) → m.timeText = .error (.number e) →
      motive (m :: ms) [] (some (.number e)))
    (notice : ∀ m ms ns stop i t time, m.shown? = some (i, t) → m.timeText = .ok time →
      motive ms ns stop → motive (m :: ms) (⟨m.id, time, i, t⟩ :: ns) stop)
    (ms : List Message) : motive ms (notices ms) (stop? ms) := by
  induction ms with
  | nil => exact nil
  | cons m ms ih =>
    rcases m.sink_cases with ⟨hshown, hfault⟩ | ⟨i, t, e, hshown, htime, hfault⟩
      | ⟨i, t, time, hshown, htime, hfault, hnotice⟩
    · rw [notices_cons_of_hidden ms hshown, stop?_cons_of_none ms hfault]
      exact hidden m ms _ _ hshown ih
    · rw [notices_cons_of_fault ms hfault, stop?_cons_of_fault ms hfault]
      exact fault m ms i t e hshown htime
    · rw [notices_cons_of_notice ms hfault hnotice, stop?_cons_of_none ms hfault]
      exact notice m ms _ _ i t time hshown htime ih

/-- **What the console makes of a batch** in memory: a line for each notice, and the output is
pushed out if nothing stops it. -/
theorem Console.write_eq (ms : List Message) :
    write ms = {
      text := (notices ms).flatMap Notice.line
      flushes := if (stop? ms).isNone then 1 else 0
      failure := stop? ms } := by
  apply sink_induction (motive := fun ms ns stop => write ms = {
    text := ns.flatMap Notice.line
    flushes := if stop.isNone then 1 else 0
    failure := stop })
  case nil => rfl
  case hidden =>
    intro m ms ns stop hshown ih
    rw [write, hshown]
    exact ih
  case fault =>
    intro m ms i t e hshown htime
    rw [write, hshown]
    simp only [htime]
    rfl
  case notice =>
    intro m ms ns stop i t time hshown htime ih
    rw [write, hshown]
    simp only [htime, TextStream.all_takes_memory, if_true, ih]
    rfl

/-- **What the log makes of a batch**: a record for each notice that the logger keeps. -/
theorem LogSink.write_eq (logger : Logger) (ms : List Message) :
    write logger ms = {
      log := (notices ms).flatMap fun n =>
        logger.record (level n.importance) n.text (some ⟨n.id, n.time⟩)
      failure := stop? ms } := by
  apply sink_induction (motive := fun ms ns stop => write logger ms = {
    log := ns.flatMap fun n =>
      logger.record (level n.importance) n.text (some ⟨n.id, n.time⟩)
    failure := stop })
  case nil => rfl
  case hidden =>
    intro m ms ns stop hshown ih
    rw [write, hshown]
    exact ih
  case fault =>
    intro m ms i t e hshown htime
    rw [write, hshown]
    simp only [htime]
    rfl
  case notice =>
    intro m ms ns stop i t time hshown htime ih
    rw [write, hshown]
    simp only [htime, ih]
    rfl

/-! ## §4. How far a sink comes. -/

/-- Each shown message that is reached has its notice, and no other has one. -/
theorem forall₂_notices (ms : List Message) :
    List.Forall₂ (fun m n => Notice.IsOf n m) ((reached ms).filter Message.isShown)
      (notices ms) := by
  unfold notices
  have hreached : ∀ m ∈ reached ms, m.fault? = none := by
    intro m hm
    simpa using List.mem_takeWhile_imp hm
  revert hreached
  generalize reached ms = before
  intro hbefore
  induction before with
  | nil => exact List.Forall₂.nil
  | cons m before ih =>
    obtain ⟨hm, hrest⟩ := List.forall_mem_cons.mp hbefore
    rcases m.sink_cases with ⟨hshown, -⟩ | ⟨i, t, e, -, -, hfault⟩
      | ⟨i, t, time, hshown, -, -, hnotice⟩
    · have hhidden : m.notice? = none := by
        unfold Message.notice?
        rw [hshown]
      rw [List.filter_cons_of_neg (by simp [Message.isShown, hshown]),
        List.filterMap_cons_none hhidden]
      exact ih hrest
    · rw [hm] at hfault
      exact absurd hfault (by simp)
    · rw [List.filter_cons_of_pos (by simp [Message.isShown, hshown]),
        List.filterMap_cons_some hnotice]
      exact List.Forall₂.cons ((Message.notice?_eq_some_iff m _).mp hnotice) (ih hrest)

/-- A batch that stops no sink is reached to its end; else it is reached up to the first shown
message whose time is an error. -/
theorem reached_cases (ms : List Message) :
    reached ms = ms ∧ stop? ms = none
      ∨ ∃ m after e, ms = reached ms ++ m :: after ∧ m.isShown = true ∧ m.timestamp = .error e
          ∧ stop? ms = some (.number e) := by
  unfold reached stop?
  cases hfault : ms.findSome? Message.fault? with
  | none =>
    refine Or.inl ⟨?_, rfl⟩
    rw [List.findSome?_eq_none_iff] at hfault
    exact List.takeWhile_eq_self_iff.mpr fun m hm => by simp [hfault m hm]
  | some e =>
    obtain ⟨before, m, after, rfl, hm, hbefore⟩ := List.findSome?_eq_some_iff.mp hfault
    obtain ⟨hshown, ht⟩ := (Message.fault?_eq_some_iff m e).mp hm
    refine Or.inr ⟨m, after, e, ?_, hshown, ht, rfl⟩
    rw [List.takeWhile_append_of_pos fun x hx => by simp [hbefore x hx],
      List.takeWhile_cons_of_neg (by simp [hm]), List.append_nil]

/-! ## §5. When a sink fails. -/

/-- A sink stops exactly when the time of some shown message is an error. -/
theorem stop?_isSome_iff (ms : List Message) :
    (stop? ms).isSome = true
      ↔ ∃ m ∈ ms, (∃ i t, m.Shows i t) ∧ ∃ e, Instant.ofWire m.time = .error e := by
  unfold stop?
  rw [Option.isSome_map, List.findSome?_isSome_iff]
  refine exists_congr fun m => and_congr_right fun _ => ?_
  rw [Option.isSome_iff_exists, ← Message.isShown_iff]
  constructor
  · rintro ⟨e, he⟩
    obtain ⟨hshown, ht⟩ := (Message.fault?_eq_some_iff m e).mp he
    exact ⟨hshown, e, ht⟩
  · rintro ⟨hshown, e, ht⟩
    exact ⟨e, (Message.fault?_eq_some_iff m e).mpr ⟨hshown, ht⟩⟩

theorem stop?_of_readable {ms : List Message} (h : ∀ m ∈ ms, m.Readable) : stop? ms = none := by
  unfold stop?
  rw [Option.map_eq_none_iff, List.findSome?_eq_none_iff]
  exact fun m hm => Message.fault?_of_readable (h m hm)

/-- The messages of a batch that was fetched can be decoded. -/
theorem readable_of_fetch {σ : Type} {service : Service σ} {limit : Nat} {project job : Value}
    {since : Checkpoint} {s : σ} {batch : List Message}
    (h : (fetch service limit project job since s).result = .ok batch) :
    ∀ m ∈ batch, m.Readable := by
  unfold fetch at h
  split at h
  next => exact absurd h (by simp)
  next start =>
    obtain ⟨timed, htimed, rfl⟩ := ok_of_map h
    obtain ⟨-, -, -, hfaithful, -⟩ := fetchSince_spec htimed
    intro m hm
    obtain ⟨x, hx, rfl⟩ := List.mem_map.mp hm
    exact ⟨some x.1, hfaithful x hx⟩

/-- **What can be decoded can be written, so no batch that was fetched stops a sink.**  A decoded
instant has every written form; a sink fails on a batch of any messages exactly when the time of
one that is shown is an error; and a batch that was fetched has none such. -/
theorem decoded_renders :
    (∀ (v : Value) (i : Instant), Instant.ofWire v = .ok (some i) → i.Renders)
      ∧ (∀ ms : List Message, (Console.write ms).failure.isSome = true
          ↔ ∃ m ∈ ms, (∃ i t, m.Shows i t) ∧ ∃ e, Instant.ofWire m.time = .error e)
      ∧ (∀ (logger : Logger) (ms : List Message), (LogSink.write logger ms).failure.isSome = true
          ↔ ∃ m ∈ ms, (∃ i t, m.Shows i t) ∧ ∃ e, Instant.ofWire m.time = .error e)
      ∧ ∀ {σ : Type} (service : Service σ) (limit : Nat) (project job : Value)
          (since : Checkpoint) (s : σ) (batch : List Message),
          (fetch service limit project job since s).result = .ok batch →
            (Console.write batch).failure = none
              ∧ ∀ logger, (LogSink.write logger batch).failure = none := by
  refine ⟨fun v i h => Instant.renders_of_ofWire h, ?_, ?_, ?_⟩
  · intro ms
    rw [Console.write_eq]
    exact stop?_isSome_iff ms
  · intro logger ms
    rw [LogSink.write_eq]
    exact stop?_isSome_iff ms
  · intro σ service limit project job since s batch h
    have hstop := stop?_of_readable (readable_of_fetch h)
    refine ⟨?_, ?_⟩
    · rw [Console.write_eq]
      exact hstop
    · intro logger
      rw [LogSink.write_eq]
      exact hstop

/-- A message that is not shown, and whose time is an error. -/
def hiddenMessage : Message where
  text := .text "x"
  importance := .list []
  time := .object [("seconds", .float (.infinity false))]

/-- The last nanosecond of the calendar is written in every form; and a time that is an error
stops no sink at a message whose importance is a list. -/
theorem decoded_renders_lastNano :
    Instant.ofWire (.object [("seconds", .int Instant.maxSeconds), ("nanos", .int 999999999)])
        = .ok (some ⟨Instant.maxSeconds, 999999999, by decide⟩)
      ∧ (⟨Instant.maxSeconds, 999999999, by decide⟩ : Instant).Renders
      ∧ (Console.write [hiddenMessage]).failure.isSome = false := by
  obtain ⟨hrenders, hconsole, -, -⟩ := decoded_renders
  have hlast : Instant.ofWire
      (.object [("seconds", .int Instant.maxSeconds), ("nanos", .int 999999999)])
        = .ok (some ⟨Instant.maxSeconds, 999999999, by decide⟩) := by rfl
  refine ⟨hlast, hrenders _ _ hlast, ?_⟩
  rw [Bool.eq_false_iff, ne_eq, hconsole]
  rintro ⟨m, hm, ⟨i, t, -, -, himportance⟩, -⟩
  rw [List.mem_singleton.mp hm] at himportance
  exact absurd himportance (by simp [hiddenMessage])

end JobWatch
