/-
  JobWatch.Proofs.WordGaps
  ────────────────────────
  **WORDS AND WHAT STANDS BETWEEN THEM.**

  A text is its words with gaps around them: any gap in front of the first
  word and behind the last, and at least one character between two of them.
  Whoever lays words out in this way finds the same words in the text, and
  every text is laid out so:

      words_laidOut      — words that are laid out with gaps are found again
      exists_spaced      — every text is such words with gaps
      Scan.apart         — between two runs there is at least one character
      flatten_words      — the words are the text without everything else
      words_longest_runs — the words of a text, by their places and by the gaps
-/
import JobWatch.Proofs.WordRuns

namespace JobWatch

namespace WordCount

/-! ## §1. Gaps. -/

/-- A gap: no word marks, and possibly nothing at all. -/
def IsGap (g : Text) : Prop := ∀ c ∈ g, isWordMark c = false

instance (g : Text) : Decidable (IsGap g) :=
  inferInstanceAs (Decidable (∀ c ∈ g, isWordMark c = false))

instance (w : Text) : Decidable (IsWord w) :=
  inferInstanceAs (Decidable (w ≠ [] ∧ ∀ c ∈ w, isWordMark c = true))

/-- A gap adds nothing to the words behind it. -/
theorem words_gap_append {g : Text} (h : IsGap g) (t : Text) : words (g ++ t) = words t := by
  induction g with
  | nil => rfl
  | cons c g ih =>
    rw [List.cons_append, words_cons (h c List.mem_cons_self)]
    exact ih fun d hd => h d (List.mem_cons_of_mem _ hd)

theorem words_of_isGap {g : Text} (h : IsGap g) : words g = [] := by
  rw [← List.append_nil g, words_gap_append h]
  rfl

/-! ## §2. Words with gaps around them. -/

/-- The text of some words, each behind the gap in front of it, with one more gap at the end. -/
def laidOut (entries : List (Text × Text)) (trail : Text) : Text :=
  entries.flatMap (fun e => e.1 ++ e.2) ++ trail

/-- Words are laid out with gaps: each entry is a word behind the gap in front of it. -/
structure Spaced (entries : List (Text × Text)) (trail : Text) : Prop where
  /-- What stands in front of a word is a gap. -/
  gaps : ∀ e ∈ entries, IsGap e.1
  /-- What stands behind it is a word. -/
  isWord : ∀ e ∈ entries, IsWord e.2
  /-- Two words do not touch. -/
  apart : ∀ e ∈ entries.tail, e.1 ≠ []
  /-- What stands at the end is a gap. -/
  ends : IsGap trail

theorem laidOut_cons (g w : Text) (entries : List (Text × Text)) (trail : Text) :
    laidOut ((g, w) :: entries) trail = g ++ (w ++ laidOut entries trail) := by
  unfold laidOut
  rw [List.flatMap_cons, List.append_assoc, List.append_assoc]

namespace Spaced

variable {entries : List (Text × Text)} {trail : Text}

theorem tail {e : Text × Text} (h : Spaced (e :: entries) trail) : Spaced entries trail where
  gaps := fun f hf => h.gaps f (List.mem_cons_of_mem _ hf)
  isWord := fun f hf => h.isWord f (List.mem_cons_of_mem _ hf)
  apart := fun f hf => h.apart f (List.mem_of_mem_tail hf)
  ends := h.ends

/-- Behind a word the text is at its end, or goes on with what is no mark. -/
theorem head_gap {e : Text × Text} (h : Spaced (e :: entries) trail) :
    ∀ c ∈ (laidOut entries trail).head?, isWordMark c = false := by
  cases entries with
  | nil =>
    intro c hc
    exact h.ends c (List.mem_of_mem_head? hc)
  | cons f entries =>
    obtain ⟨g, w⟩ := f
    -- the next gap is not empty, so it has the next character
    obtain ⟨d, g, rfl⟩ := List.exists_cons_of_ne_nil (h.apart (g, w) List.mem_cons_self)
    intro c hc
    rw [laidOut_cons] at hc
    obtain rfl : d = c := Option.some.inj hc
    exact h.gaps (d :: g, w) (by simp) d List.mem_cons_self

/-- One more character that is no mark widens the first gap. -/
theorem skip {c : CodePoint} (hc : isWordMark c = false) (h : Spaced entries trail) :
    ∃ entries' trail', Spaced entries' trail'
      ∧ laidOut entries' trail' = c :: laidOut entries trail := by
  cases entries with
  | nil =>
    refine ⟨[], c :: trail, ⟨h.gaps, h.isWord, h.apart, ?_⟩, rfl⟩
    exact List.forall_mem_cons.mpr ⟨hc, h.ends⟩
  | cons f entries =>
    obtain ⟨g, w⟩ := f
    obtain ⟨hg, hgaps⟩ := List.forall_mem_cons.mp h.gaps
    obtain ⟨hw, hwords⟩ := List.forall_mem_cons.mp h.isWord
    refine ⟨(c :: g, w) :: entries, trail, ⟨?_, ?_, h.apart, h.ends⟩, ?_⟩
    · exact List.forall_mem_cons.mpr ⟨List.forall_mem_cons.mpr ⟨hc, hg⟩, hgaps⟩
    · exact List.forall_mem_cons.mpr ⟨hw, hwords⟩
    · rw [laidOut_cons, laidOut_cons]
      rfl

/-- One more word stands in front, if no mark follows it. -/
theorem word {w : Text} (hw : IsWord w)
    (hend : ∀ c ∈ (laidOut entries trail).head?, isWordMark c = false)
    (h : Spaced entries trail) : Spaced (([], w) :: entries) trail where
  gaps := List.forall_mem_cons.mpr ⟨fun _ hc => absurd hc List.not_mem_nil, h.gaps⟩
  isWord := List.forall_mem_cons.mpr ⟨hw, h.isWord⟩
  apart := by
    intro e he
    cases entries with
    | nil => exact absurd he List.not_mem_nil
    | cons f entries =>
      rcases List.mem_cons.mp he with rfl | he
      · -- without a gap the next word would follow at once, and begin with a mark
        intro hnil
        obtain ⟨g, v⟩ := e
        obtain rfl : g = [] := hnil
        have hv : IsWord v := h.isWord ([], v) List.mem_cons_self
        rw [laidOut_cons] at hend
        exact hv.goes_on _ hend
      · exact h.apart e he
  ends := h.ends

end Spaced

/-- **Words that are laid out with gaps are found again**, in their order. -/
theorem words_laidOut {entries : List (Text × Text)} {trail : Text} (h : Spaced entries trail) :
    words (laidOut entries trail) = entries.map Prod.snd := by
  induction entries with
  | nil => exact words_of_isGap h.ends
  | cons e entries ih =>
    obtain ⟨g, w⟩ := e
    have hg : IsGap g := h.gaps (g, w) List.mem_cons_self
    have hw : IsWord w := h.isWord (g, w) List.mem_cons_self
    rw [laidOut_cons, words_gap_append hg, words_append hw h.head_gap, ih h.tail]
    rfl

/-- **Every text is words with gaps around them.** -/
theorem exists_spaced (t : Text) :
    ∃ entries trail, Spaced entries trail ∧ laidOut entries trail = t := by
  obtain ⟨ps, hscan⟩ := exists_scan 0 t
  generalize 0 = k at hscan
  induction hscan with
  | done =>
    have hnone : Spaced [] [] := by constructor <;> decide
    exact ⟨[], [], hnone, rfl⟩
  | skip hc _ ih =>
    obtain ⟨entries, trail, hspaced, rfl⟩ := ih
    exact hspaced.skip hc
  | word hw hend _ ih =>
    obtain ⟨entries, trail, hspaced, rfl⟩ := ih
    refine ⟨_, trail, hspaced.word hw hend, ?_⟩
    rw [laidOut_cons]
    rfl

/-! ## §3. Places. -/

/-- If a text begins with no mark, its runs stand behind its first place. -/
theorem Scan.first_lt {k : Nat} {t : Text} {ps : List (Nat × Text)} (h : Scan k t ps)
    (hbegin : ∀ c ∈ t.head?, isWordMark c = false) : ∀ p ∈ ps, k < p.1 := by
  cases h with
  | done => exact List.forall_mem_nil _
  | skip _ rest =>
    intro p hp
    have hle := rest.ascending.2 p hp
    omega
  | word hw => exact absurd hbegin (hw.goes_on _)

/-- **Between two runs there is at least one character.** -/
theorem Scan.apart {k : Nat} {t : Text} {ps : List (Nat × Text)} (h : Scan k t ps) :
    ps.Pairwise fun p q => p.1 + p.2.length < q.1 := by
  induction h with
  | done => exact List.Pairwise.nil
  | skip _ _ ih => exact ih
  | word _ hend rest ih => exact List.pairwise_cons.mpr ⟨rest.first_lt hend, ih⟩

/-- **The words of a text are the text without everything that is no word mark.** -/
theorem flatten_words (t : Text) : (words t).flatten = t.filter isWordMark := by
  obtain ⟨ps, hscan⟩ := exists_scan 0 t
  generalize 0 = k at hscan
  induction hscan with
  | done => rfl
  | @skip k c t ps hc _ ih =>
    rw [words_cons hc, ih, List.filter_cons_of_neg (by simp [hc])]
  | @word k w t ps hw hend _ ih =>
    rw [words_append hw hend, List.flatten_cons, ih, List.filter_append,
      List.filter_eq_self.mpr hw.2]

/-! ## §4. The words of a text. -/

/-- **The words of a text are its longest runs**, each once and in the order of their places, with
at least one other character between two of them.  Each is a word, together they are the text
without all other characters, and they are the only list from which the text can be had by laying
words out with gaps: any gap at the front and at the end, and one that is not empty between two
words. -/
theorem words_longest_runs (t : Text) :
    (∃ ps : List (Nat × Text),
        words t = ps.map Prod.snd
          ∧ (∀ i w, (i, w) ∈ ps ↔ RunAt t i w)
          ∧ ps.Pairwise fun p q => p.1 + p.2.length < q.1)
      ∧ (∀ w ∈ words t, IsWord w)
      ∧ (words t).flatten = t.filter isWordMark
      ∧ ∀ ws, words t = ws
          ↔ ∃ entries trail, Spaced entries trail ∧ laidOut entries trail = t
              ∧ entries.map Prod.snd = ws := by
  obtain ⟨entries, trail, hspaced, htext⟩ := exists_spaced t
  have hwords : words t = entries.map Prod.snd := by
    rw [← htext]
    exact words_laidOut hspaced
  refine ⟨?_, ?_, flatten_words t, fun ws => ⟨?_, ?_⟩⟩
  · obtain ⟨ps, hscan⟩ := exists_scan 0 t
    refine ⟨ps, hscan.words, fun i w => ?_, hscan.apart⟩
    rw [hscan.mem_iff]
    constructor
    · intro h
      obtain ⟨j, rfl, hrun⟩ := h
      rwa [Nat.zero_add]
    · intro hrun
      exact ⟨i, (Nat.zero_add i).symm, hrun⟩
  · intro w hw
    rw [hwords] at hw
    obtain ⟨e, he, rfl⟩ := List.mem_map.mp hw
    exact hspaced.isWord e he
  · intro h
    exact ⟨entries, trail, hspaced, htext, hwords.symm.trans h⟩
  · intro h
    obtain ⟨entries', trail', hspaced', rfl, rfl⟩ := h
    exact words_laidOut hspaced'

/-- Digits and letters beyond ASCII are gaps, and an apostrophe is part of a word. -/
theorem words_longest_runs_accents :
    words "It's  été, 2b" = ["It's", "t", "b"]
      ∧ ("It's" : Text) ∈ words "It's  été, 2b" ∧ IsWord "It's" := by
  have hspaced : Spaced [([], "It's"), ("  é", "t"), ("é, 2", "b")] [] := by
    constructor <;> decide
  have hwords : words "It's  été, 2b" = ["It's", "t", "b"] :=
    ((words_longest_runs _).2.2.2 _).mpr ⟨_, _, hspaced, by decide, rfl⟩
  have hmem : ("It's" : Text) ∈ words "It's  été, 2b" := by
    rw [hwords]
    exact List.mem_cons_self
  exact ⟨hwords, hmem, (words_longest_runs _).2.1 _ hmem⟩

end WordCount

end JobWatch
