/-
  JobWatch.Proofs.ConsoleText
  ───────────────────────────
  **WHAT THE CONSOLE SHOWS OF A BATCH.**

  A timestamp that can be decoded lies in the calendar, and so it has a
  canonical text, which every stream takes.  Only a text that its stream
  refuses can therefore stop the console on its way through a batch whose
  timestamps can be decoded, and where a batch is cut does not matter to what
  is shown:

      range_of_ofWire      — what can be decoded lies in the calendar
      mem_canonical        — what a canonical text is made of
      all_takes_parts      — a stream that takes a text takes the whole line
      write_append         — two batches show what they show as one
      failure_write        — a readable batch stops the console exactly when
                             the stream refuses a text that is shown
-/
import JobWatch.Proofs.CalendarOrder
import JobWatch.Proofs.WireRoundTrip
import JobWatch.Proofs.InstantOrder
import JobWatch.Sink

namespace JobWatch

/-! ## §1. Streams. -/

namespace TextStream

theorem takes_append (out : TextStream) (t t' : Text) :
    out.takes (t ++ t') = (out.takes t && out.takes t') := List.all_append

/-- Every stream takes ASCII texts. -/
theorem takes_of_isAscii (out : TextStream) {t : Text} (h : ∀ c ∈ t, c.isAscii = true) :
    out.takes t = true := List.all_eq_true.mpr fun c hc => out.ascii c (h c hc)

/-- A stream in memory takes any texts. -/
theorem all_takes_memory (ts : List Text) : ts.all memory.takes = true :=
  List.all_eq_true.mpr fun _ _ => List.all_eq_true.mpr fun _ _ => rfl

end TextStream

/-! ## §2. Decoded instants. -/

namespace Instant

theorem range_of_ofText? {t : Text} {i : Instant} (h : ofText? t = some i) :
    minSeconds ≤ i.seconds ∧ i.seconds ≤ maxSeconds := by
  obtain ⟨stamp, -, hstamp⟩ := Option.bind_eq_some_iff.mp h
  obtain ⟨time, -, rfl⟩ := Option.map_eq_some_iff.mp hstamp
  exact epochSeconds_range time

theorem range_of_ofPair? {seconds nanos : Int} {i : Instant} (h : ofPair? seconds nanos = some i) :
    minSeconds ≤ i.seconds ∧ i.seconds ≤ maxSeconds := by
  unfold ofPair? at h
  split at h
  next =>
    split at h
    next hrange =>
      obtain rfl := Option.some.inj h
      exact hrange
    next => exact absurd h (by simp)
  next => exact absurd h (by simp)

theorem range_of_ofFields {fields : Fields} {i : Instant} (h : ofFields fields = .ok (some i)) :
    minSeconds ≤ i.seconds ∧ i.seconds ≤ maxSeconds := by
  unfold ofFields at h
  split at h
  next => exact absurd h (by simp)
  next =>
    split at h
    next => exact absurd h (by simp)
    next => exact absurd h (by simp)
    next =>
      split at h
      next => exact absurd h (by simp)
      next => exact absurd h (by simp)
      next => exact range_of_ofPair? (Except.ok.inj h)

/-- **What can be decoded lies in the calendar.** -/
theorem range_of_ofWire {v : Value} {i : Instant} (h : ofWire v = .ok (some i)) :
    minSeconds ≤ i.seconds ∧ i.seconds ≤ maxSeconds := by
  cases v with
  | text t => exact range_of_ofText? (Except.ok.inj h)
  | object fields => exact range_of_ofFields h
  | _ => exact absurd h (by simp [ofWire])

/-- An instant of the calendar has a canonical text. -/
theorem canonical_of_range {i : Instant} (h : minSeconds ≤ i.seconds ∧ i.seconds ≤ maxSeconds) :
    ∃ t, i.canonical = .ok t := by
  obtain ⟨time, htime⟩ := calendarTime_of_range h
  unfold canonical stamped
  rw [htime]
  exact ⟨_, rfl⟩

end Instant

/-! ## §3. Times in writing. -/

theorem CodePoint.isAscii_ofDigit (d : Digit) : (ofDigit d).isAscii = true := by
  revert d
  decide

theorem Text.ofDigit_of_mem_padded {width n : Nat} {c : CodePoint} (h : c ∈ Text.padded width n) :
    ∃ d, c = CodePoint.ofDigit d := by
  obtain ⟨d, -, rfl⟩ := List.mem_map.mp h
  exact ⟨d, rfl⟩

theorem CalendarTime.mem_text {t : CalendarTime} {c : CodePoint} (h : c ∈ t.text) :
    (∃ d, c = CodePoint.ofDigit d) ∨ c ∈ Text.ofString "-T:" := by
  unfold CalendarTime.text at h
  simp only [List.mem_append, List.mem_cons, or_assoc] at h
  -- digits and marks take turns
  rcases h with h | rfl | h | rfl | h | rfl | h | rfl | h | rfl | h
  all_goals first
    | exact Or.inl (Text.ofDigit_of_mem_padded h)
    | exact Or.inr (by decide)

/-- **A canonical text is made of digits and marks.** -/
theorem Instant.mem_canonical {i : Instant} {t : Text} (h : i.canonical = .ok t) {c : CodePoint}
    (hc : c ∈ t) : (∃ d, c = CodePoint.ofDigit d) ∨ c ∈ Text.ofString "-T:.Z" := by
  unfold canonical stamped at h
  split at h
  next => exact absurd h (by simp)
  next time _ =>
    obtain rfl := Except.ok.inj h
    rw [List.append_assoc, List.mem_append, List.mem_append, List.mem_singleton] at hc
    rcases hc with hc | hc | rfl
    · have hmarks : ∀ c ∈ Text.ofString "-T:", c ∈ Text.ofString "-T:.Z" := by decide
      exact (CalendarTime.mem_text hc).imp_right (hmarks c)
    · rcases List.mem_cons.mp hc with rfl | hc
      · exact Or.inr (by decide)
      · exact Or.inl (Text.ofDigit_of_mem_padded hc)
    · exact Or.inr (by decide)

/-- A time that can be decoded can be shown. -/
theorem Message.timeText_of_readable {m : Message} (h : m.Readable) :
    ∃ time, m.timeText = .ok time := by
  obtain ⟨t, ht⟩ := h
  unfold timeText
  rw [ht]
  cases t with
  | none => exact ⟨none, rfl⟩
  | some i =>
    obtain ⟨text, htext⟩ := Instant.canonical_of_range (Instant.range_of_ofWire ht)
    simp only [htext]
    exact ⟨some text, rfl⟩

/-- A known time of a message is the canonical text of an instant. -/
theorem Message.canonical_of_timeText {m : Message} {t : Text} (h : m.timeText = .ok (some t)) :
    ∃ i : Instant, i.canonical = .ok t := by
  unfold timeText at h
  split at h
  next => exact absurd h (by simp)
  next => exact absurd h (by simp)
  next i _ =>
    split at h
    next => exact absurd h (by simp)
    next htext =>
      rw [Except.ok.injEq, Option.some.injEq] at h
      exact ⟨i, h ▸ htext⟩

/-! ## §4. Batches. -/

namespace Console

/-- The parts in which a line is written make up the line. -/
theorem flatten_parts (time : Option Text) (importance : Importance) (text : Text) :
    (parts time importance text).flatten = line time importance text := by
  simp only [parts, line, List.flatten_cons, List.flatten_nil, List.append_assoc, List.append_nil]

theorem takes_timePart {m : Message} {time : Option Text} (h : m.timeText = .ok time)
    (out : TextStream) : out.takes (timePart time) = true := by
  cases time with
  | none => exact out.takes_of_isAscii (by decide)
  | some t =>
    obtain ⟨i, hi⟩ := Message.canonical_of_timeText h
    have hmarks : ∀ c ∈ Text.ofString "-T:.Z", c.isAscii = true := by decide
    have htext : ∀ c ∈ t, c.isAscii = true := by
      intro c hc
      rcases Instant.mem_canonical hi hc with ⟨d, rfl⟩ | hmark
      · exact CodePoint.isAscii_ofDigit d
      · exact hmarks c hmark
    rw [timePart, out.takes_append, out.takes_of_isAscii htext,
      out.takes_of_isAscii (t := Text.ofString ": ") (by decide)]
    rfl

/-- **A stream that takes a text takes the whole line.** -/
theorem all_takes_parts {m : Message} {time : Option Text} (h : m.timeText = .ok time)
    (importance : Importance) (text : Text) (out : TextStream) :
    (parts time importance text).all out.takes = out.takes text := by
  have hlabel : out.takes (label importance) = true := by
    cases importance <;> exact out.takes_of_isAscii (by decide)
  have hend : out.takes [CodePoint.ofChar '\n'] = true := out.takes_of_isAscii (by decide)
  rw [parts, List.all_cons, List.all_cons, List.all_cons, List.all_nil, takes_timePart h, hlabel,
    out.takes_append, hend]
  simp only [Bool.true_and, Bool.and_true]

/-- **Two batches show what they show as one**, if the console comes to the second. -/
theorem write_append (ms ms' : List Message) (out : TextStream) :
    write (ms ++ ms') out = match (write ms out).failure with
      | none => { write ms' out with text := (write ms out).text ++ (write ms' out).text }
      | some _ => write ms out := by
  induction ms with
  | nil => rfl
  | cons m ms ih =>
    rw [List.cons_append, write, write]
    cases m.shown? with
    | none => exact ih
    | some shown =>
      cases m.timeText with
      | error e => rfl
      | ok time =>
        cases htakes : (parts time shown.1 shown.2).all out.takes with
        | false => simp only [htakes, Bool.false_eq_true, if_false]
        | true =>
          simp only [htakes, if_true, ih]
          obtain ⟨text, flushes, failure⟩ := write ms out
          cases failure with
          | none => simp only [List.append_assoc]
          | some e => rfl

/-- The stream refuses what the console has to show of the message. -/
def isRefused (out : TextStream) (m : Message) : Bool :=
  match m.shown? with
  | none => false
  | some (_, text) => !out.takes text

/-- **A readable batch stops the console exactly when a message of it is refused.** -/
theorem failure_write {ms : List Message} (h : ∀ m ∈ ms, m.Readable) (out : TextStream) :
    (write ms out).failure = if ms.any (isRefused out) then some .unencodable else none := by
  induction ms with
  | nil => rfl
  | cons m ms ih =>
    obtain ⟨hm, hms⟩ := List.forall_mem_cons.mp h
    obtain ⟨time, htime⟩ := Message.timeText_of_readable hm
    rw [write, List.any_cons, isRefused]
    cases m.shown? with
    | none => exact ih hms
    | some shown =>
      simp only [htime, all_takes_parts htime]
      by_cases htakes : out.takes shown.2 = true
      · simp only [htakes, if_true, Bool.not_true, Bool.false_or]
        exact ih hms
      · simp only [Bool.eq_false_iff.mpr htakes, Bool.false_eq_true, if_false, Bool.not_false,
          Bool.true_or, if_true]

theorem failure_write_eq_none_iff {ms : List Message} (h : ∀ m ∈ ms, m.Readable)
    (out : TextStream) : (write ms out).failure = none
      ↔ ∀ m ∈ ms, ∀ i t, m.shown? = some (i, t) → out.takes t = true := by
  have hrefused (m : Message) : isRefused out m = false
      ↔ ∀ i t, m.shown? = some (i, t) → out.takes t = true := by
    unfold isRefused
    cases m.shown? with
    | none => simp
    | some shown => simp [Prod.ext_iff]
  simp only [failure_write h, ← hrefused, ite_eq_right_iff, reduceCtorEq, imp_false,
    Bool.not_eq_true, List.any_eq_false]

/-- Nothing else stops the console at such a batch. -/
theorem failure_write_of_ne_none {ms : List Message} (h : ∀ m ∈ ms, m.Readable)
    {out : TextStream} (hne : (write ms out).failure ≠ none) :
    (write ms out).failure = some .unencodable := by
  rw [failure_write h] at hne ⊢
  split at hne
  next hany => exact if_pos hany
  next => exact absurd rfl hne

end Console

end JobWatch
