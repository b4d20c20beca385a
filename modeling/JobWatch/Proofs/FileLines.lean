/-
  JobWatch.Proofs.FileLines
  ─────────────────────────
  **LINES THAT END IN ANY OF THREE WAYS.**

  A line ends at a line feed, at a carriage return, or at both in this order;
  nothing stands behind the last break, or a line that no break ends.  The
  lines of a file are these lines, each with a line feed in place of its break:

      fileLines_append    — one line and its break
      Lines.fileLines     — the lines of a file, with line feeds
      existsUnique_lines  — a text is cut into lines in one way
      Lines.words         — no word reaches over a break
      Lines.countLines    — what is counted, in terms of lines without breaks
-/
import Mathlib.Data.List.TakeWhile
import JobWatch.Proofs.WordRuns
import JobWatch.Proofs.WordTally
import JobWatch.WordCount.File

namespace JobWatch

namespace WordCount

/-! ## §1. Lines. -/

/-- A character that ends a line. -/
def isBreak (c : CodePoint) : Bool := c = CodePoint.ofChar '\n' || c = CodePoint.ofChar '\r'

/-- A text within one line. -/
def Unbroken (line : Text) : Prop := ∀ c ∈ line, isBreak c = false

/-- `Break brk rest`: in front of `rest`, the text `brk` is one whole line break. -/
inductive Break : Text → Text → Prop
  /-- A line feed. -/
  | lineFeed (rest : Text) : Break [CodePoint.ofChar '\n'] rest
  /-- A carriage return and a line feed. -/
  | both (rest : Text) : Break [CodePoint.ofChar '\r', CodePoint.ofChar '\n'] rest
  /-- A carriage return that no line feed follows. -/
  | carriageReturn {rest : Text} (h : rest.head? ≠ some (CodePoint.ofChar '\n')) :
      Break [CodePoint.ofChar '\r'] rest

/-- `Lines t lines`: cut at its breaks, which are left out, the text `t` is `lines`. -/
inductive Lines : Text → List Text → Prop
  /-- Nothing is no line. -/
  | done : Lines [] []
  /-- A line that no break ends. -/
  | last {line : Text} (hne : line ≠ []) (hline : Unbroken line) : Lines line [line]
  /-- A line, its break, and the lines of the rest. -/
  | line {line brk rest : Text} {lines : List Text} (hline : Unbroken line)
      (hbrk : Break brk rest) (more : Lines rest lines) :
      Lines (line ++ (brk ++ rest)) (line :: lines)

/-- What begins with a break begins with a whole one. -/
theorem exists_break {c : CodePoint} (h : isBreak c = true) (t : Text) :
    ∃ brk rest, c :: t = brk ++ rest ∧ Break brk rest := by
  rcases Bool.or_eq_true _ _ ▸ h with hc | hc
  · obtain rfl := of_decide_eq_true hc
    exact ⟨_, t, rfl, Break.lineFeed t⟩
  obtain rfl := of_decide_eq_true hc
  by_cases hhead : t.head? = some (CodePoint.ofChar '\n')
  · obtain ⟨rest, rfl⟩ := List.head?_eq_some_iff.mp hhead
    exact ⟨_, rest, rfl, Break.both rest⟩
  · exact ⟨_, t, rfl, Break.carriageReturn hhead⟩

theorem Break.ne_nil {brk rest : Text} (h : Break brk rest) : brk ≠ [] := by
  cases h <;> exact List.cons_ne_nil _ _

/-- **Every text is cut into lines.** -/
theorem exists_lines (t : Text) : ∃ lines, Lines t lines := by
  induction hn : t.length using Nat.strongRecOn generalizing t with
  | ind n ih =>
    -- what stands before the first break, and what begins with it
    have hsplit := List.takeWhile_append_dropWhile (p := fun c => !isBreak c) (l := t)
    have hline : Unbroken (t.takeWhile fun c => !isBreak c) :=
      fun c hc => by simpa using List.mem_takeWhile_imp hc
    cases hrest : t.dropWhile fun c => !isBreak c with
    | nil =>
      rw [hrest, List.append_nil] at hsplit
      rw [hsplit] at hline
      by_cases ht : t = []
      · exact ⟨[], ht ▸ Lines.done⟩
      · exact ⟨[t], Lines.last ht hline⟩
    | cons c more =>
      have hc : isBreak c = true := by
        have hstop := Text.head_dropWhile (congrArg List.head? hrest)
        rwa [Bool.not_eq_false'] at hstop
      obtain ⟨brk, rest, hmore, hbrk⟩ := exists_break hc more
      rw [hrest, hmore] at hsplit
      have hlength := congrArg List.length hsplit
      have hpos := List.length_pos_iff.mpr hbrk.ne_nil
      rw [List.length_append, List.length_append] at hlength
      obtain ⟨lines, hlines⟩ := ih rest.length (by omega) rest rfl
      exact ⟨_, hsplit ▸ Lines.line hline hbrk hlines⟩

/-! ## §2. The lines of a file. -/

theorem ofChar_lineFeed_ne_carriageReturn :
    CodePoint.ofChar '\n' ≠ CodePoint.ofChar '\r' := by decide

theorem unifyBreaks_append {line : Text} (h : Unbroken line) (t : Text) :
    unifyBreaks (line ++ t) = line ++ unifyBreaks t := by
  induction line with
  | nil => rfl
  | cons c line ih =>
    obtain ⟨hc, hline⟩ := List.forall_mem_cons.mp h
    have hnot : c ≠ CodePoint.ofChar '\r' := by
      rintro rfl
      exact absurd hc (by decide)
    -- by the definition as a whole: its equations ask for the shape of what follows
    rw [List.cons_append, unifyBreaks.eq_def]
    simp only [if_neg hnot, ih hline]
    rfl

/-- **A break becomes a line feed.** -/
theorem Break.unifyBreaks {brk rest : Text} (h : Break brk rest) :
    unifyBreaks (brk ++ rest) = CodePoint.ofChar '\n' :: unifyBreaks rest := by
  cases h with
  | lineFeed =>
    show WordCount.unifyBreaks (CodePoint.ofChar '\n' :: rest) = _
    rw [WordCount.unifyBreaks.eq_def]
    exact if_neg ofChar_lineFeed_ne_carriageReturn
  | both =>
    show WordCount.unifyBreaks (CodePoint.ofChar '\r' :: CodePoint.ofChar '\n' :: rest) = _
    rw [WordCount.unifyBreaks.eq_def]
    simp only [if_true]
  | carriageReturn hnext =>
    show WordCount.unifyBreaks (CodePoint.ofChar '\r' :: rest) = _
    -- the carriage return stands at the end, or in front of what is no line feed
    cases rest with
    | nil => rfl
    | cons d rest =>
      have hd : d ≠ CodePoint.ofChar '\n' := fun hd => hnext (congrArg some hd)
      rw [WordCount.unifyBreaks.eq_def]
      simp only [if_true, if_neg hd]

theorem linesOf_append {line : Text} (h : Unbroken line) (t : Text) :
    linesOf (line ++ CodePoint.ofChar '\n' :: t)
      = (line ++ [CodePoint.ofChar '\n']) :: linesOf t := by
  induction line with
  | nil => exact if_pos rfl
  | cons c line ih =>
    obtain ⟨hc, hline⟩ := List.forall_mem_cons.mp h
    have hnot : c ≠ CodePoint.ofChar '\n' := by
      rintro rfl
      exact absurd hc (by decide)
    rw [List.cons_append, linesOf, if_neg hnot, ih hline]
    rfl

theorem linesOf_unbroken {line : Text} (hne : line ≠ []) (h : Unbroken line) :
    linesOf line = [line] := by
  induction line with
  | nil => exact absurd rfl hne
  | cons c line ih =>
    obtain ⟨hc, hline⟩ := List.forall_mem_cons.mp h
    have hnot : c ≠ CodePoint.ofChar '\n' := by
      rintro rfl
      exact absurd hc (by decide)
    rw [linesOf, if_neg hnot]
    by_cases hrest : line = []
    · subst hrest
      rfl
    · rw [ih hrest hline]
      rfl

/-- **One line and its break** in front of a text. -/
theorem fileLines_append {line brk rest : Text} (hline : Unbroken line) (hbrk : Break brk rest) :
    fileLines (line ++ (brk ++ rest))
      = (line ++ [CodePoint.ofChar '\n']) :: fileLines rest := by
  unfold fileLines
  rw [unifyBreaks_append hline, hbrk.unifyBreaks, linesOf_append hline]

theorem fileLines_unbroken {line : Text} (hne : line ≠ []) (hline : Unbroken line) :
    fileLines line = [line] := by
  have hunified := unifyBreaks_append hline []
  rw [List.append_nil] at hunified
  unfold fileLines
  rw [hunified]
  show linesOf (line ++ []) = [line]
  rw [List.append_nil, linesOf_unbroken hne hline]

/-- The same lines, to some of which a line feed has been added. -/
def WithLineFeeds : List Text → List Text → Prop :=
  List.Forall₂ fun line l => l = line ∨ l = line ++ [CodePoint.ofChar '\n']

/-- **The lines of a file, with line feeds**: all but perhaps the last have one. -/
theorem Lines.fileLines {t : Text} {lines : List Text} (h : Lines t lines) :
    WithLineFeeds lines (fileLines t) := by
  induction h with
  | done => exact List.Forall₂.nil
  | last hne hline =>
    rw [fileLines_unbroken hne hline]
    exact List.Forall₂.cons (Or.inl rfl) List.Forall₂.nil
  | line hline hbrk _ ih =>
    rw [fileLines_append hline hbrk]
    exact List.Forall₂.cons (Or.inr rfl) ih

theorem Lines.unbroken {t : Text} {lines : List Text} (h : Lines t lines) :
    ∀ line ∈ lines, Unbroken line := by
  induction h with
  | done => exact List.forall_mem_nil _
  | last _ hline => exact List.forall_mem_singleton.mpr hline
  | line hline _ _ ih => exact List.forall_mem_cons.mpr ⟨hline, ih⟩

theorem not_unbroken_lineFeed (line : Text) : ¬Unbroken (line ++ [CodePoint.ofChar '\n']) := by
  intro h
  have hbreak := h (CodePoint.ofChar '\n') (by simp)
  exact absurd hbreak (by decide)

theorem WithLineFeeds.unique {lines others ls : List Text} (h : WithLineFeeds lines ls)
    (h' : WithLineFeeds others ls) (hlines : ∀ line ∈ lines, Unbroken line)
    (hothers : ∀ line ∈ others, Unbroken line) : lines = others := by
  induction h generalizing others with
  | nil =>
    cases h'
    rfl
  | @cons line l lines ls hl _ ih =>
    cases h' with
    | @cons other _ others _ hl' hrest =>
      obtain ⟨hline, hlines⟩ := List.forall_mem_cons.mp hlines
      obtain ⟨hother, hothers⟩ := List.forall_mem_cons.mp hothers
      rw [ih hrest hlines hothers]
      refine congrArg (· :: others) ?_
      -- one line feed more on either side would be a line feed in a line
      rcases hl with rfl | rfl <;> rcases hl' with heq | heq
      · exact heq
      · exact absurd (heq ▸ hline) (not_unbroken_lineFeed other)
      · exact absurd (heq ▸ hother) (not_unbroken_lineFeed line)
      · exact List.append_cancel_right heq

/-- **A text is cut into lines in one way.** -/
theorem existsUnique_lines (t : Text) : ∃! lines, Lines t lines := by
  obtain ⟨lines, hlines⟩ := exists_lines t
  refine ⟨lines, hlines, fun others hothers => ?_⟩
  exact hothers.fileLines.unique hlines.fileLines hothers.unbroken hlines.unbroken

/-! ## §3. What is counted. -/

theorem isWordMark_of_isBreak {c : CodePoint} (h : isBreak c = true) : isWordMark c = false := by
  rcases Bool.or_eq_true _ _ ▸ h with hc | hc
  · rw [of_decide_eq_true hc]
    decide
  · rw [of_decide_eq_true hc]
    decide

/-- A break is passed over when words are looked for. -/
theorem Break.words {line brk rest : Text} (h : Break brk rest) :
    words (line ++ (brk ++ rest)) = words line ++ words rest := by
  cases h with
  | lineFeed => exact words_append_cons (isWordMark_of_isBreak (by decide)) line rest
  | both =>
    show WordCount.words (line ++ CodePoint.ofChar '\r' :: CodePoint.ofChar '\n' :: rest) = _
    rw [words_append_cons (isWordMark_of_isBreak (by decide)),
      words_cons (isWordMark_of_isBreak (by decide))]
  | carriageReturn => exact words_append_cons (isWordMark_of_isBreak (by decide)) line rest

/-- **No word reaches over a break.** -/
theorem Lines.words {t : Text} {lines : List Text} (h : Lines t lines) :
    words t = lines.flatMap words := by
  induction h with
  | done => rfl
  | last hne hline => rw [List.flatMap_singleton]
  | line hline hbrk _ ih => rw [hbrk.words, ih, List.flatMap_cons]

/-- A text is trimmed to nothing if it is blank throughout. -/
theorem isEmpty_trim (t : Text) : t.trim.isEmpty = t.all CodePoint.isBlank := by
  rw [Bool.eq_iff_iff, List.isEmpty_iff, List.all_eq_true]
  unfold Text.trim Text.trimWhile Text.dropEndWhile
  rw [List.reverse_eq_nil_iff, List.dropWhile_eq_nil_iff]
  constructor
  · intro hrest
    -- what is left at the front begins with a character that is not blank, if with any
    have hnil : t.dropWhile CodePoint.isBlank = [] := by
      by_contra hne
      have hhead := List.head_dropWhile_not CodePoint.isBlank hne
      rw [hrest _ (List.mem_reverse.mpr (List.head_mem hne))] at hhead
      exact Bool.false_ne_true hhead.symm
    exact List.dropWhile_eq_nil_iff.mp hnil
  · intro hblank
    rw [List.dropWhile_eq_nil_iff.mpr hblank]
    exact List.forall_mem_nil _

/-- A line feed at the end changes neither the words of a line nor whether it is blank. -/
theorem words_lineFeed (line : Text) :
    words (line ++ [CodePoint.ofChar '\n']) = words line := by
  rw [words_append_cons (by decide)]
  exact List.append_nil _

theorem isEmpty_trim_lineFeed (line : Text) :
    (line ++ [CodePoint.ofChar '\n']).trim.isEmpty = line.trim.isEmpty := by
  have hblank : [CodePoint.ofChar '\n'].all CodePoint.isBlank = true := by decide
  rw [isEmpty_trim, isEmpty_trim, List.all_append, hblank, Bool.and_true]

theorem addLine_lineFeed (c : Counts) (line : Text) :
    c.addLine (line ++ [CodePoint.ofChar '\n']) = c.addLine line := by
  unfold Counts.addLine
  rw [words_lineFeed, isEmpty_trim_lineFeed]

theorem WithLineFeeds.foldl_addLine {lines ls : List Text} (h : WithLineFeeds lines ls)
    (c : Counts) : ls.foldl Counts.addLine c = lines.foldl Counts.addLine c := by
  induction h generalizing c with
  | nil => rfl
  | cons hl _ ih =>
    rw [List.foldl_cons, List.foldl_cons, ih]
    rcases hl with rfl | rfl
    · rfl
    · rw [addLine_lineFeed]

/-- **What is counted, in terms of lines without breaks.** -/
theorem Lines.countLines {t : Text} {lines : List Text} (h : Lines t lines) :
    countLines (WordCount.fileLines t)
      = { tally := Tally.addAll [] (WordCount.words t)
          emptyLines := lines.countP fun line => line.all CodePoint.isBlank } := by
  have hcount : WordCount.countLines (WordCount.fileLines t) = WordCount.countLines lines :=
    h.fileLines.foldl_addLine {}
  rw [hcount, countLines_eq, h.words]
  simp only [isEmpty_trim]

end WordCount

end JobWatch
