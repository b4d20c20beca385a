/-
  JobWatch.Proofs.ConsoleLines
  ────────────────────────────
  **HOW MANY LINES A MESSAGE MAKES.**

  The console ends what it writes of a message with a line feed and writes
  the text of the message as it is.  Time and label have no line feed, so a
  message makes one line more than its text has line feeds; and what the
  console writes is one line for each message exactly when no text has any:

      isBlank_of_mem_canonical — a written time has no blanks
      count_flatMap_row        — the line feeds of what is written
      splitAt_rows_iff         — when the rows are the lines
      text_lines_iff           — one line for each message, or not
-/
import JobWatch.Proofs.SinkNotices
import JobWatch.Proofs.TextPieces

namespace JobWatch

/-! ## §1. Times in writing. -/

/-- **A written time has no blanks.** -/
theorem Instant.isBlank_of_mem_canonical {i : Instant} {t : Text} (h : i.canonical = .ok t) :
    ∀ c ∈ t, c.isBlank = false := by
  have hmarks : ∀ c ∈ Text.ofString "-T:.Z", c.isBlank = false := by decide
  intro c hc
  rcases mem_canonical h hc with ⟨d, rfl⟩ | hmark
  · exact Text.isBlank_ofDigit d
  · exact hmarks c hmark

/-! ## §2. Rows. -/

namespace Notice

/-- What stands before the text: the time and the label. -/
def front (n : Notice) : Text := Console.timePart n.time ++ Console.label n.importance

/-- The line without its end. -/
def row (n : Notice) : Text := n.front ++ n.text

/-- **There is no line feed before the text.** -/
theorem IsOf.lineFeed_notMem_front {n : Notice} {m : Message} (h : n.IsOf m) :
    CodePoint.ofChar '\n' ∉ n.front := by
  unfold front
  rw [List.mem_append, not_or]
  constructor
  · have htime := h.time
    cases hn : n.time with
    | none => decide
    | some t =>
      rw [hn] at htime
      obtain ⟨i, hi⟩ := Message.canonical_of_timeText htime
      have hblank := Instant.isBlank_of_mem_canonical hi
      intro hmem
      rcases List.mem_append.mp hmem with hmem | hmem
      · exact absurd (hblank _ hmem) (by decide)
      · exact absurd hmem (by decide)
  · cases n.importance <;> decide

end Notice

/-- Of a character that stands before no text, there is one for each row that it ends, and those
in the texts. -/
theorem count_flatMap_row {c : CodePoint} {ns : List Notice} (h : ∀ n ∈ ns, c ∉ n.front) :
    (ns.flatMap fun n => n.row ++ [c]).count c = ns.length + (ns.flatMap Notice.text).count c := by
  induction ns with
  | nil => rfl
  | cons n ns ih =>
    obtain ⟨hn, hns⟩ := List.forall_mem_cons.mp h
    rw [List.flatMap_cons, List.count_append, ih hns, List.count_append, Notice.row,
      List.count_append, List.count_eq_zero_of_not_mem hn, List.count_singleton_self,
      List.length_cons, List.flatMap_cons, List.count_append]
    omega

/-- The texts add none exactly when none of them has one. -/
theorem count_texts_eq_zero_iff (c : CodePoint) (ns : List Notice) :
    (ns.flatMap Notice.text).count c = 0 ↔ ∀ n ∈ ns, c ∉ n.text := by
  rw [List.count_eq_zero, List.mem_flatMap]
  constructor
  · intro hnot n hn hc
    exact hnot ⟨n, hn, hc⟩
  · rintro hnone ⟨n, hn, hc⟩
    exact hnone n hn hc

/-- **The rows are the lines** exactly when no text has a separator. -/
theorem splitAt_rows_iff {c : CodePoint} {ns : List Notice} (h : ∀ n ∈ ns, c ∉ n.front) :
    Text.splitAt c (ns.flatMap fun n => n.row ++ [c]) = ns.map Notice.row ++ [[]]
      ↔ ∀ n ∈ ns, c ∉ n.text := by
  constructor
  · intro hsplit
    have hlength := Text.length_splitAt c (ns.flatMap fun n => n.row ++ [c])
    rw [hsplit, count_flatMap_row h, List.length_append, List.length_map,
      List.length_singleton] at hlength
    apply (count_texts_eq_zero_iff c ns).mp
    omega
  · intro htext
    have hrows : ∀ r ∈ ns.map Notice.row, ∀ d ∈ r, d ≠ c := by
      intro r hr d hd hdc
      obtain ⟨n, hn, rfl⟩ := List.mem_map.mp hr
      rw [hdc] at hd
      rcases List.mem_append.mp hd with hd | hd
      · exact h n hn hd
      · exact htext n hn hd
    have hsplit := Text.splitAt_flatMap hrows
    rwa [List.flatMap_map] at hsplit

/-! ## §3. Lines of a batch. -/

/-- A batch whose times can be decoded is reached to its end. -/
theorem reached_of_readable {ms : List Message} (h : ∀ m ∈ ms, m.Readable) : reached ms = ms :=
  List.takeWhile_eq_self_iff.mpr fun m hm => by rw [Message.fault?_of_readable (h m hm)]; rfl

/-- The notices of a batch whose times can be decoded are those of its messages. -/
theorem mem_notices_iff {ms : List Message} (h : ∀ m ∈ ms, m.Readable) (n : Notice) :
    n ∈ notices ms ↔ ∃ m ∈ ms, n.IsOf m := by
  unfold notices
  rw [reached_of_readable h, List.mem_filterMap]
  exact exists_congr fun m => and_congr_right fun _ => m.notice?_eq_some_iff n

/-- What is said in the notices is what the shown messages say. -/
theorem forall_notices_iff {ms : List Message} (h : ∀ m ∈ ms, m.Readable) (p : Text → Prop) :
    (∀ n ∈ notices ms, p n.text) ↔ ∀ m ∈ ms, ∀ i t, m.Shows i t → p t := by
  constructor
  · intro hnotices m hm i t hshows
    obtain ⟨time, htime⟩ := Message.timeText_of_readable (h m hm)
    exact hnotices ⟨m.id, time, i, t⟩
      ((mem_notices_iff h _).mpr ⟨m, hm, ⟨rfl, htime, hshows⟩⟩)
  · intro hms n hn
    obtain ⟨m, hm, hof⟩ := (mem_notices_iff h n).mp hn
    exact hms m hm _ _ hof.shows

/-- **One line for each message, or not.**  Of a batch whose times can be decoded, the console
writes a row for each message that is shown, in order, and ends it with a line feed.  So there is
a line feed for each shown message, and those in the texts besides: the line feeds are as many as
the messages shown, and the lines are the rows, exactly when no text that is shown has a line
feed. -/
theorem text_lines_iff {ms : List Message} (h : ∀ m ∈ ms, m.Readable) :
    List.Forall₂ (fun m n => Notice.IsOf n m) (ms.filter Message.isShown) (notices ms)
      ∧ (Console.write ms).text = (notices ms).flatMap (fun n => n.row ++ [CodePoint.ofChar '\n'])
      ∧ (Console.write ms).text.count (CodePoint.ofChar '\n') = (ms.filter Message.isShown).length
          + ((notices ms).flatMap Notice.text).count (CodePoint.ofChar '\n')
      ∧ ((Console.write ms).text.count (CodePoint.ofChar '\n') = (ms.filter Message.isShown).length
          ↔ ∀ m ∈ ms, ∀ i t, m.Shows i t → CodePoint.ofChar '\n' ∉ t)
      ∧ (Text.splitAt '\n' (Console.write ms).text = (notices ms).map Notice.row ++ [[]]
          ↔ ∀ m ∈ ms, ∀ i t, m.Shows i t → CodePoint.ofChar '\n' ∉ t) := by
  have hnotices := forall₂_notices ms
  rw [reached_of_readable h] at hnotices
  have hfront : ∀ n ∈ notices ms, CodePoint.ofChar '\n' ∉ n.front := by
    intro n hn
    obtain ⟨m, -, hof⟩ := (mem_notices_iff h n).mp hn
    exact hof.lineFeed_notMem_front
  have htext : (Console.write ms).text
      = (notices ms).flatMap (fun n => n.row ++ [CodePoint.ofChar '\n']) := by
    rw [Console.write_eq]
    rfl
  have hcount : (Console.write ms).text.count (CodePoint.ofChar '\n')
      = (ms.filter Message.isShown).length
        + ((notices ms).flatMap Notice.text).count (CodePoint.ofChar '\n') := by
    rw [htext, count_flatMap_row hfront, hnotices.length_eq]
  have hquiet := forall_notices_iff h fun t => CodePoint.ofChar '\n' ∉ t
  refine ⟨hnotices, htext, hcount, ?_, ?_⟩
  · rw [hcount, Nat.add_eq_left, count_texts_eq_zero_iff]
    exact hquiet
  · rw [htext, splitAt_rows_iff hfront]
    exact hquiet

/-- A message whose text goes on like a line of another message. -/
def forger : Message where
  text := .text "a\nUNKNOWN TIMESTAMP: Error:   b"
  importance := .text "JOB_MESSAGE_ERROR"

theorem readable_forger : ∀ m ∈ [forger], m.Readable := by
  intro m hm
  rw [List.mem_singleton.mp hm]
  exact ⟨none, rfl⟩

/-- The text of `forger` has a line feed, so its row is no line. -/
theorem text_lines_iff_forger :
    (∀ m ∈ [forger], m.Readable)
      ∧ Text.splitAt '\n' (Console.write [forger]).text
          ≠ (notices [forger]).map Notice.row ++ [[]] := by
  obtain ⟨-, -, -, -, hlines⟩ := text_lines_iff readable_forger
  refine ⟨readable_forger, ?_⟩
  rw [ne_eq, hlines]
  intro hquiet
  have hshows := (forger.shown?_eq_some_iff .error _).mp rfl
  exact hquiet forger List.mem_cons_self _ _ hshows (by decide)

/-- One message makes two lines, and what it makes is what two messages make. -/
theorem lines_forged :
    (∀ m ∈ [forger], m.Readable)
      ∧ ([forger].filter Message.isShown).length = 1
      ∧ (Console.write [forger]).text.count (CodePoint.ofChar '\n') = 2
      ∧ (Console.write [forger]).text
          = (Console.write [{ forger with text := .text "a" },
              { forger with text := .text "b" }]).text :=
  ⟨readable_forger, rfl, rfl, rfl⟩

end JobWatch
