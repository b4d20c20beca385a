/-
  JobWatch.Proofs.WordCountFiles
  ──────────────────────────────
  **FROM FILE TO FILE.**

  The input is read and decoded as a whole before the output is touched.  So
  a run that finds no text leaves the disk as it was, and one that finds a
  text writes the table of its words:

      counted_text         — what is counted in a text is what stands in it
      isTable              — what is written reads back as what was counted
      run_of_text          — a run that finds a text
      run_of_error         — a run that finds none
      run_writes_or_keeps  — every run
-/
import JobWatch.Proofs.DiskLaws
import JobWatch.Proofs.Outcomes
import JobWatch.Proofs.WordTable

namespace JobWatch

namespace WordCount

/-! ## §1. What is counted. -/

/-- What the counts of a text are. -/
structure Counted (t : Text) (counts : Counts) : Prop where
  /-- Words are counted, -/
  words : ∀ e ∈ counts.tally, IsWord e.1
  /-- each of them in one place, -/
  distinct : (counts.tally.map Prod.fst).Nodup
  /-- the words that stand in the text as longest runs, -/
  complete : ∀ w, w ∈ counts.tally.map Prod.fst ↔ ∃ i, RunAt t i w
  /-- each as often as it stands there, -/
  counted : ∀ e ∈ counts.tally, 0 < e.2 ∧ e.2 = {i | RunAt t i e.1}.ncard
  /-- in the order in which they first stand there. -/
  ordered : (counts.tally.map Prod.fst).Pairwise (AppearsBefore t)
  /-- The text is cut into lines in one way, -/
  cut : ∃! lines, Lines t lines
  /-- and the lines that are blank throughout are counted. -/
  blank : ∀ lines, Lines t lines →
    counts.emptyLines = lines.countP fun line => line.all CodePoint.isBlank

/-- The words of a text are words. -/
theorem isWord_of_mem_words {t w : Text} (h : w ∈ words t) : IsWord w := by
  obtain ⟨i, before, after, -, -, hw, -⟩ := (mem_words_iff t w).mp h
  exact hw

/-- What comes before a word among the words of a text appears before it in the text. -/
theorem ComesBefore.appearsBefore {t v w : Text} (h : ComesBefore (words t) v w) (hne : v ≠ w) :
    AppearsBefore t v w := by
  obtain ⟨earlier, later, hwords, hw⟩ := h
  exact WordCount.appearsBefore hwords hne.symm hw

/-- **What is counted in a text is what stands in it.** -/
theorem counted_text (t : Text) : Counted t (countLines (fileLines t)) := by
  obtain ⟨lines, hlines⟩ := exists_lines t
  -- the tally is that of the words of the text, in whatever lines they stand
  have htally := tallies_words (words t)
  have hcounts := hlines.countLines
  have hmem : ∀ e ∈ (countLines (fileLines t)).tally, e.1 ∈ words t := by
    rw [hcounts]
    exact fun e he => (htally.complete e.1).mp (List.mem_map_of_mem he)
  refine ⟨fun e he => isWord_of_mem_words (hmem e he), ?_, fun w => ?_, fun e he => ?_, ?_,
    existsUnique_lines t, fun others hothers => ?_⟩
  · rw [hcounts]
    exact htally.distinct
  · rw [hcounts, ← mem_words_iff]
    exact htally.complete w
  · have hcount : e.2 = (words t).count e.1 := by
      rw [hcounts] at he
      exact htally.counted e he
    rw [hcount, ncard_runAt]
    exact ⟨List.count_pos_iff.mpr (hmem e he), rfl⟩
  · rw [hcounts]
    exact (htally.ordered.and htally.distinct).imp fun hboth => hboth.1.appearsBefore hboth.2
  · rw [hothers.countLines]

/-! ## §2. What is written. -/

/-- The content of a file is the table of a tally, which can be read from it. -/
structure IsTable (content : Bytes) (tally : Tally) : Prop where
  /-- One line `word: count` for each word, in order. -/
  written : content = Utf8.encode (table tally)
  /-- The content is UTF-8 for this text. -/
  decoded : Utf8.read content = some (table tally)
  /-- The lines, each cut at the first colon with a space, give the words and their counts. -/
  readBack : ∀ rows, Lines (table tally) rows → rows.mapM readRow? = some tally

/-- **What is written reads back** as what was counted. -/
theorem isTable {tally : Tally} (h : ∀ e ∈ tally, IsWord e.1) :
    IsTable (fileOf tally.rows) tally := by
  obtain ⟨hscalar, hlines⟩ := table_spec h
  have hwritten : fileOf tally.rows = Utf8.encode (table tally) := by
    unfold fileOf
    rw [flatMap_rows]
  refine ⟨hwritten, ?_, fun rows hrows => ?_⟩
  · rw [hwritten]
    exact Utf8.read_encode hscalar
  · rw [(existsUnique_lines (table tally)).unique hrows hlines]
    exact readRows?_tally h

/-! ## §3. Runs. -/

/-- What a disk holds under what is named as a file. -/
def contentOf (d : Disk) (f : Target) : Except FileError Bytes := do d.read (← f.toPath)

/-- Where a disk lets what is named as a file be written. -/
def spotOf (d : Disk) (f : Target) : Except FileError Location := do d.spot (← f.toPath)

theorem spotOf_eq_ok {d : Disk} {f : Target} {place : Location} (h : spotOf d f = .ok place) :
    ∃ p, f.toPath = .ok p ∧ d.spot p = .ok place := by
  exact bind_eq_ok_iff.mp h

/-- What is written where a file can be written is its content. -/
theorem contentOf_put {d : Disk} {f : Target} {place : Location} (h : spotOf d f = .ok place)
    (content : Bytes) : contentOf (d.put place content) f = .ok content := by
  obtain ⟨p, hp, hspot⟩ := spotOf_eq_ok h
  unfold contentOf
  rw [hp]
  exact Disk.read_put hspot content

/-- A count is made of the content, if there is one. -/
theorem countFile_eq (d : Disk) (input : Target) :
    countFile d input = (contentOf d input).bind fun content =>
      match countsOf? content with
      | none => .error .malformed
      | some counts => .ok counts := by
  unfold countFile contentOf
  cases input.toPath <;> rfl

theorem writeTable_of_spot {d : Disk} {output : Target} {place : Location}
    (h : spotOf d output = .ok place) (counts : Counts) :
    writeTable d output counts = .ok (d.put place (fileOf counts.tally.rows)) := by
  obtain ⟨p, hp, hspot⟩ := spotOf_eq_ok h
  unfold writeTable Disk.write
  rw [hp]
  show (d.spot p).map _ = _
  rw [hspot]
  rfl

/-- **A run that finds a text** writes the table of what it counts. -/
theorem run_of_text {d : Disk} {input output : Target} {t : Text} {place : Location}
    (ht : t.isScalar = true) (hread : contentOf d input = .ok (Utf8.encode t))
    (hspot : spotOf d output = .ok place) :
    (run d input output).result = .ok (countLines (fileLines t))
      ∧ (run d input output).disk
        = d.put place (fileOf (countLines (fileLines t)).tally.rows) := by
  have hcount : countFile d input = .ok (countLines (fileLines t)) := by
    rw [countFile_eq, hread]
    show (match countsOf? (Utf8.encode t) with | none => _ | some counts => _) = _
    rw [countsOf?, Utf8.read_encode ht]
    rfl
  unfold run
  rw [hcount]
  simp only [writeTable_of_spot hspot, and_self]

/-- **A run that finds none** leaves the disk as it was. -/
theorem run_of_error {d : Disk} {input : Target} {e : FileError}
    (h : countFile d input = .error e) (output : Target) :
    (run d input output).result = .error e ∧ (run d input output).disk = d := by
  unfold run
  rw [h]
  exact ⟨rfl, rfl⟩

/-- **Every run.** If the input holds UTF-8 and the output can be written, be it the same file,
then the run succeeds, what is returned are the counts of the text, and the output becomes the
table of these counts. If the input cannot be read, or holds anything else, the run fails and the
disk is as it was. -/
theorem run_writes_or_keeps (d : Disk) (input output : Target) :
    (∀ t place, t.isScalar = true → contentOf d input = .ok (Utf8.encode t) →
      spotOf d output = .ok place →
        ∃ counts content, (run d input output).result = .ok counts
          ∧ Counted t counts
          ∧ IsTable content counts.tally
          ∧ (run d input output).disk = d.put place content
          ∧ contentOf (run d input output).disk output = .ok content)
    ∧ (∀ e, contentOf d input = .error e →
        (run d input output).result = .error e ∧ (run d input output).disk = d)
    ∧ (∀ content, contentOf d input = .ok content →
        (¬∃ t : Text, t.isScalar = true ∧ Utf8.encode t = content) →
          (run d input output).result = .error .malformed ∧ (run d input output).disk = d) := by
  refine ⟨fun t place ht hread hspot => ?_, fun e hread => ?_, fun content hread hnot => ?_⟩
  · obtain ⟨hresult, hdisk⟩ := run_of_text ht hread hspot
    have hcounted := counted_text t
    refine ⟨_, _, hresult, hcounted, isTable hcounted.words, hdisk, ?_⟩
    rw [hdisk]
    exact contentOf_put hspot _
  · refine run_of_error ?_ output
    rw [countFile_eq, hread]
    rfl
  -- what the strict reader takes for a text would be one
  · have hnone : Utf8.read content = none := by
      by_contra hsome
      obtain ⟨t, ht⟩ := Option.ne_none_iff_exists'.mp hsome
      exact hnot ⟨t, (Utf8.read_eq_some_iff content t).mp ht⟩
    refine run_of_error ?_ output
    rw [countFile_eq, hread]
    show (match countsOf? content with | none => _ | some counts => _) = _
    rw [countsOf?, hnone]
    rfl

/-- A text with all three line breaks. -/
def verse : Text := Text.ofString "The cat's\r\n \rcat's 7 The\n"

/-- Octets that are UTF-8 up to the last one. -/
def torn : Bytes := Utf8.encode "The cat's\n" ++ [0xFF]

/-- A disk with the text in one file and the octets in another. -/
def shelf : Disk where
  files := [([Utf8.encode "verse"], Utf8.encode verse), ([Utf8.encode "torn"], torn)]
  directories := []
  here := []

/-- What is counted in the text. -/
def verseCounts : Counts where
  tally := [(Text.ofString "The", 2), (Text.ofString "cat's", 2)]
  emptyLines := 1

/-- The text is counted into its own file; octets that are no text, and a file that is missing,
leave the disk as it is. -/
theorem run_writes_or_keeps_shelf :
    (run shelf (.path "verse") (.path "verse")).result = .ok verseCounts
      ∧ contentOf (run shelf (.path "verse") (.path "verse")).disk (.path "verse")
        = .ok (Utf8.encode "The: 2\ncat's: 2\n")
      ∧ (run shelf (.path "torn") (.path "verse")).result = .error .malformed
      ∧ (run shelf (.path "torn") (.path "verse")).disk = shelf
      ∧ (run shelf (.path "other") (.path "verse")).result = .error .missing
      ∧ (run shelf (.path "other") (.path "verse")).disk = shelf := by
  have hresult : (run shelf (.path "verse") (.path "verse")).result = .ok verseCounts := by
    decide +kernel
  obtain ⟨counts, content, hcounts, -, htable, -, hafter⟩ :=
    (run_writes_or_keeps shelf (.path "verse") (.path "verse")).1 verse [Utf8.encode "verse"]
      (by decide) (by decide +kernel) (by decide +kernel)
  have hnone : Utf8.read torn = none := by decide +kernel
  obtain ⟨hmalformed, hkept⟩ :=
    (run_writes_or_keeps shelf (.path "torn") (.path "verse")).2.2 torn (by decide +kernel) (by
      rintro ⟨t, ht⟩
      rw [(Utf8.read_eq_some_iff torn t).mpr ht] at hnone
      exact absurd hnone (by simp))
  obtain ⟨hmissing, hsame⟩ :=
    (run_writes_or_keeps shelf (.path "other") (.path "verse")).2.1 .missing (by decide +kernel)
  obtain rfl := Except.ok.inj (hcounts.symm.trans hresult)
  refine ⟨hresult, ?_, hmalformed, hkept, hmissing, hsame⟩
  rw [hafter, htable.written]
  exact congrArg Except.ok (by decide +kernel)

end WordCount

end JobWatch
