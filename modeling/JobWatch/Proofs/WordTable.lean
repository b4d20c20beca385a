/-
  JobWatch.Proofs.WordTable
  ─────────────────────────
  **A TABLE OF WORDS READS BACK.**

  A row is a word, a colon with a space, and a count in decimal.  No word
  holds a colon, so a row is cut at its first colon with a space; and no row
  holds a line break, so a file of rows is cut into just these rows:

      cutAt?_append    — a text is cut at the first place of a mark
      readNat?_ofNat   — a count in decimal reads back
      readRows?_tally  — a tally reads back from its rows
      lines_flatMap    — rows that are each ended are the lines
      table_spec       — a table is a text with the rows as its lines
-/
import JobWatch.Proofs.DigitText
import JobWatch.Proofs.FileLines
import JobWatch.Proofs.Utf8Validity

namespace JobWatch

namespace WordCount

/-! ## §1. Reading a row. -/

/-- The text before the first place where the mark stands, and what stands behind the mark. -/
def cutAt? (mark : Text) : Text → Option (Text × Text)
  | [] => none
  | c :: rest =>
    if mark.isPrefixOf (c :: rest) then some ([], (c :: rest).drop mark.length)
    else (cutAt? mark rest).map fun cut => (c :: cut.1, cut.2)

/-- The number that a text writes in decimal digits and nothing else. -/
def readNat? (t : Text) : Option Nat :=
  match Text.spanDigits t with
  | (d :: ds, []) => some (number (d :: ds))
  | _ => none

/-- The word and the count of a row. -/
def readRow? (r : Text) : Option (Text × Nat) := do
  let (word, count) ← cutAt? (Text.ofString ": ") r
  let n ← readNat? count
  return (word, n)

/-- **A text is cut at the first place of a mark**, before which its first character does not
stand. -/
theorem cutAt?_append {c : CodePoint} (mark : Text) {front : Text} (h : ∀ d ∈ front, d ≠ c)
    (rest : Text) :
    cutAt? (c :: mark) (front ++ (c :: mark ++ rest)) = some (front, rest) := by
  induction front with
  | nil =>
    show cutAt? (c :: mark) (c :: (mark ++ rest)) = _
    have hfront : (c :: mark).isPrefixOf (c :: (mark ++ rest)) = true :=
      List.isPrefixOf_iff_prefix.mpr (List.prefix_append (c :: mark) rest)
    rw [cutAt?, if_pos hfront]
    show some ([], (c :: mark ++ rest).drop (c :: mark).length) = _
    rw [List.drop_left]
  | cons d front ih =>
    obtain ⟨hd, hfront⟩ := List.forall_mem_cons.mp h
    -- the mark does not begin here, because its first character does not stand here
    have hnot : ¬(c :: mark).isPrefixOf (d :: (front ++ (c :: mark ++ rest))) = true := by
      intro hprefix
      exact hd (List.cons_prefix_cons.mp (List.isPrefixOf_iff_prefix.mp hprefix)).1.symm
    rw [List.cons_append, cutAt?, if_neg hnot, ih hfront]
    rfl

/-- **A count in decimal reads back.** -/
theorem readNat?_ofNat (n : Nat) : readNat? (Text.ofNat n) = some n := by
  obtain ⟨ds, htext, hnumber, hne, -⟩ := Text.ofNat_eq_ofDigits n
  obtain ⟨d, ds, rfl⟩ := List.exists_cons_of_ne_nil hne
  unfold readNat?
  rw [htext, Text.spanDigits_ofDigits_self]
  exact congrArg some hnumber

theorem row_eq (w : Text) (n : Nat) :
    row (.text w) (.int n) = w ++ (Text.ofString ": " ++ Text.ofNat n) :=
  List.append_assoc w _ _

theorem IsWord.ne_colon {w : Text} (h : IsWord w) : ∀ c ∈ w, c ≠ CodePoint.ofChar ':' := by
  rintro c hc rfl
  exact absurd (h.2 _ hc) (by decide)

/-- **A row reads back.** -/
theorem readRow?_row {w : Text} (h : IsWord w) (n : Nat) :
    readRow? (row (.text w) (.int n)) = some (w, n) := by
  have hcut : cutAt? (Text.ofString ": ") (w ++ (Text.ofString ": " ++ Text.ofNat n))
      = some (w, Text.ofNat n) := cutAt?_append _ h.ne_colon (Text.ofNat n)
  rw [row_eq, readRow?, hcut]
  simp only [Option.bind_eq_bind, Option.bind_some, readNat?_ofNat]
  rfl

/-- **A tally reads back from its rows.** -/
theorem readRows?_tally {tally : Tally} (h : ∀ e ∈ tally, IsWord e.1) :
    tally.rows.mapM readRow? = some tally := by
  induction tally with
  | nil => rfl
  | cons e tally ih =>
    obtain ⟨he, htally⟩ := List.forall_mem_cons.mp h
    have hrest := ih htally
    unfold Tally.rows at hrest ⊢
    rw [List.map_cons, List.mapM_cons, readRow?_row he, hrest]
    rfl

/-! ## §2. A file of rows. -/

/-- A text of nothing but spaces and the ASCII characters that show on paper. -/
def Shown (t : Text) : Prop := ∀ c ∈ t, 0x20 ≤ c.val ∧ c.val < 0x7F

theorem Shown.append {t u : Text} (ht : Shown t) (hu : Shown u) : Shown (t ++ u) :=
  List.forall_mem_append.mpr ⟨ht, hu⟩

theorem Shown.unbroken {t : Text} (h : Shown t) : Unbroken t := by
  intro c hc
  rw [isBreak, Bool.or_eq_false_iff, decide_eq_false_iff_not, decide_eq_false_iff_not]
  have hlow := (h c hc).1
  constructor <;>
  · rintro rfl
    exact absurd hlow (by decide)

theorem Shown.isScalar {t : Text} (h : Shown t) : t.isScalar = true := by
  unfold Text.isScalar
  refine List.all_eq_true.mpr fun c hc => ?_
  have hhigh := (h c hc).2
  rw [CodePoint.isSurrogate, CodePoint.within, Bool.not_eq_true', Bool.and_eq_false_iff,
    decide_eq_false_iff_not, decide_eq_false_iff_not]
  omega

theorem IsWord.shown {w : Text} (h : IsWord w) : Shown w := by
  intro c hc
  have hmark := h.2 c hc
  rw [isWordMark, Bool.or_eq_true, decide_eq_true_eq] at hmark
  -- capitals and small letters lie between the apostrophe and the end of ASCII
  rcases hmark with hletter | rfl
  · simp only [CodePoint.isLetter, CodePoint.within, Bool.or_eq_true, Bool.and_eq_true,
      decide_eq_true_eq] at hletter
    omega
  · decide

theorem shown_ofNat (n : Nat) : Shown (Text.ofNat n) := by
  obtain ⟨ds, htext, -⟩ := Text.ofNat_eq_ofDigits n
  rw [htext]
  intro c hc
  obtain ⟨d, -, rfl⟩ := List.mem_map.mp hc
  have hd := d.isLt
  show 0x20 ≤ 0x30 + d.val ∧ 0x30 + d.val < 0x7F
  omega

/-- A row holds nothing but shown characters. -/
theorem shown_row {w : Text} (h : IsWord w) (n : Nat) : Shown (row (.text w) (.int n)) := by
  have hmark : Shown (Text.ofString ": ") := by
    intro c hc
    revert c
    decide
  rw [row_eq]
  exact h.shown.append (hmark.append (shown_ofNat n))

/-- **Rows that are each ended are the lines.** -/
theorem lines_flatMap {rows : List Text} (h : ∀ r ∈ rows, Unbroken r) :
    Lines (rows.flatMap fun r => r ++ [CodePoint.ofChar '\n']) rows := by
  induction rows with
  | nil => exact Lines.done
  | cons r rows ih =>
    obtain ⟨hr, hrows⟩ := List.forall_mem_cons.mp h
    rw [List.flatMap_cons, List.append_assoc]
    exact Lines.line hr (Break.lineFeed _) (ih hrows)

/-- The text of a table: one line `word: count` for each word of a tally, in order. -/
def table (tally : Tally) : Text :=
  tally.flatMap fun e =>
    e.1 ++ Text.ofString ": " ++ Text.ofNat e.2 ++ [CodePoint.ofChar '\n']

theorem flatMap_rows (tally : Tally) :
    (tally.rows.flatMap fun r => r ++ [CodePoint.ofChar '\n']) = table tally := by
  unfold Tally.rows table
  rw [List.flatMap_map]
  rfl

/-- **What is written is a table**, which is a text with the rows as its lines. -/
theorem table_spec {tally : Tally} (h : ∀ e ∈ tally, IsWord e.1) :
    (table tally).isScalar = true ∧ Lines (table tally) tally.rows := by
  have hshown : ∀ r ∈ tally.rows, Shown r := by
    intro r hr
    obtain ⟨e, he, rfl⟩ := List.mem_map.mp hr
    exact shown_row (h e he) e.2
  rw [← flatMap_rows]
  refine ⟨?_, lines_flatMap fun r hr => (hshown r hr).unbroken⟩
  unfold Text.isScalar
  rw [List.all_flatMap]
  refine List.all_eq_true.mpr fun r hr => ?_
  rw [List.all_append, Bool.and_eq_true]
  exact ⟨(hshown r hr).isScalar, by decide⟩

end WordCount

end JobWatch
