/-
  JobWatch.Proofs.WordRuns
  ────────────────────────
  **WORDS ARE LONGEST RUNS.**

  A word stands in a text where a run of word marks begins and ends, with no
  mark before it and none behind it.  Going through the text from the left
  finds every such run once, at its place, and the words of the text are
  those runs:

      words_append_cons — what is no mark splits the words
      Scan.words        — the words of a text are the runs that a scan finds
      Scan.mem_iff      — a scan finds the longest runs and nothing else
      ncard_runAt       — a word is counted once for each of its places
      appearsBefore     — words come in the order in which they stand
-/
import Mathlib.Data.List.TakeWhile
import Mathlib.Data.Set.Card
import JobWatch.Proofs.TextPieces
import JobWatch.WordCount.Words

namespace JobWatch

namespace WordCount

/-! ## §1. Words between other characters. -/

/-- A word: word marks and nothing else, at least one. -/
def IsWord (w : Text) : Prop := w ≠ [] ∧ ∀ c ∈ w, isWordMark c = true

/-- **What is no mark splits the words.** -/
theorem words_append_cons {c : CodePoint} (h : isWordMark c = false) (before rest : Text) :
    words (before ++ c :: rest) = words before ++ words rest := by
  unfold words
  rw [Text.splitWhere_append_cons (by simp [h]), List.filter_append]

theorem words_cons {c : CodePoint} (h : isWordMark c = false) (t : Text) :
    words (c :: t) = words t := words_append_cons h [] t

/-- A word is its only word. -/
theorem words_of_isWord {w : Text} (h : IsWord w) : words w = [w] := by
  unfold words
  rw [Text.splitWhere_of_none fun c hc => by simp [h.2 c hc]]
  exact List.filter_cons_of_pos (by simpa using h.1)

/-- A word at the front of a text is the first of its words, if no mark follows. -/
theorem words_append {w : Text} (hw : IsWord w) {t : Text}
    (hend : ∀ c ∈ t.head?, isWordMark c = false) : words (w ++ t) = w :: words t := by
  cases t with
  | nil =>
    rw [List.append_nil, words_of_isWord hw]
    rfl
  | cons c t =>
    have hc := hend c rfl
    rw [words_append_cons hc, words_of_isWord hw, words_cons hc]
    rfl

/-! ## §2. Longest runs. -/

/-- The word `w` stands in `t` at the place `i`, with no word mark right before it and none right
behind it. -/
def RunAt (t : Text) (i : Nat) (w : Text) : Prop :=
  ∃ before after, t = before ++ (w ++ after) ∧ before.length = i ∧ IsWord w
    ∧ (∀ c ∈ before.getLast?, isWordMark c = false)
    ∧ ∀ c ∈ after.head?, isWordMark c = false

theorem not_runAt_nil (i : Nat) (w : Text) : ¬RunAt [] i w := by
  rintro ⟨before, after, htext, -, hw, -⟩
  have hnil := List.append_eq_nil_iff.mp (List.append_eq_nil_iff.mp htext.symm).2
  exact hw.1 hnil.1

/-- Where a word stands, the text goes on with a mark. -/
theorem IsWord.goes_on {w : Text} (h : IsWord w) (after : Text) :
    ¬∀ c ∈ (w ++ after).head?, isWordMark c = false := by
  intro hstop
  cases w with
  | nil => exact h.1 rfl
  | cons c w =>
    have hmark : isWordMark c = true := h.2 c List.mem_cons_self
    rw [hstop c rfl] at hmark
    exact absurd hmark Bool.false_ne_true

/-- Behind a character that is no mark the runs are those of the rest. -/
theorem runAt_cons {c : CodePoint} (hc : isWordMark c = false) (t : Text) (i : Nat) (w : Text) :
    RunAt (c :: t) i w ↔ ∃ j, i = j + 1 ∧ RunAt t j w := by
  constructor
  · rintro ⟨before, after, htext, hplace, hw, hbegin, hend⟩
    cases before with
    | nil =>
      refine absurd ?_ (hw.goes_on after)
      show ∀ d ∈ ([] ++ (w ++ after)).head?, isWordMark d = false
      rw [← htext]
      intro d hd
      obtain rfl : c = d := Option.some.inj hd
      exact hc
    | cons d before =>
      rw [List.length_cons] at hplace
      refine ⟨before.length, hplace.symm, before, after, (List.cons.inj htext).2, rfl, hw, ?_,
        hend⟩
      intro e he
      exact hbegin e (List.mem_getLast?_cons he)
  · rintro ⟨j, rfl, before, after, rfl, rfl, hw, hbegin, hend⟩
    refine ⟨c :: before, after, rfl, rfl, hw, ?_, hend⟩
    intro e he
    cases before with
    | nil =>
      rw [List.getLast?_singleton, Option.mem_some_iff] at he
      exact he ▸ hc
    | cons d before => exact hbegin e (by rwa [List.getLast?_cons_cons] at he)

/-- At the front of a text two words behind which no mark follows are the same. -/
theorem IsWord.eq_of_append {v w after t : Text} (hv : IsWord v) (hw : IsWord w)
    (hafter : ∀ c ∈ after.head?, isWordMark c = false)
    (hend : ∀ c ∈ t.head?, isWordMark c = false) (h : w ++ t = v ++ after) : v = w := by
  rw [← Text.takeWhile_run hv.2 hafter, ← h, Text.takeWhile_run hw.2 hend]

/-- Behind a word at the front of a text the runs are those of the rest. -/
theorem runAt_append {w : Text} (hw : IsWord w) {t : Text}
    (hend : ∀ c ∈ t.head?, isWordMark c = false) (i : Nat) (v : Text) :
    RunAt (w ++ t) i v ↔ i = 0 ∧ v = w ∨ ∃ j, i = w.length + j ∧ RunAt t j v := by
  constructor
  · rintro ⟨before, after, htext, hplace, hv, hbegin, hafter⟩
    rcases List.eq_nil_or_concat before with rfl | ⟨front, last, hbefore⟩
    · exact Or.inl ⟨hplace.symm, hv.eq_of_append hw hafter hend htext⟩
    have hlast : isWordMark last = false := by
      refine hbegin last ?_
      rw [hbefore, List.concat_eq_append, List.getLast?_concat]
      rfl
    -- what stands before the run ends with no mark, so it reaches beyond the word
    rcases List.append_eq_append_iff.mp htext with ⟨more, hmore, hrest⟩ | ⟨more, hmore, hrest⟩
    · refine Or.inr ⟨more.length, ?_, more, after, hrest, rfl, hv, ?_, hafter⟩
      · rw [← hplace, hmore, List.length_append]
      · intro c hc
        refine hbegin c ?_
        rw [hmore]
        exact List.mem_getLast?_append_of_mem_getLast? hc
    · have hmark := hw.2 last (by
        rw [hmore, hbefore, List.concat_eq_append]
        simp)
      rw [hlast] at hmark
      exact absurd hmark Bool.false_ne_true
  · rintro (⟨rfl, rfl⟩ | ⟨j, rfl, before, after, rfl, rfl, hv, hbegin, hafter⟩)
    · exact ⟨[], t, rfl, rfl, hw, by simp, hend⟩
    · refine ⟨w ++ before, after, (List.append_assoc w before _).symm, List.length_append, hv, ?_,
        hafter⟩
      cases before with
      | nil =>
        -- a run at the front of the rest would go on with the word
        exact absurd hend (hv.goes_on after)
      | cons d before =>
        intro c hc
        rw [List.getLast?_append_of_ne_nil _ (List.cons_ne_nil d before)] at hc
        exact hbegin c hc

/-! ## §3. Scans. -/

/-- `Scan k t ps`: the runs of `t`, whose first place is `k`, are found from left to right. -/
inductive Scan : Nat → Text → List (Nat × Text) → Prop
  /-- At the end there are none. -/
  | done {k : Nat} : Scan k [] []
  /-- A character that is no mark is passed over. -/
  | skip {k : Nat} {c : CodePoint} {t : Text} {ps : List (Nat × Text)}
      (hc : isWordMark c = false) (rest : Scan (k + 1) t ps) : Scan k (c :: t) ps
  /-- A word is found as a whole. -/
  | word {k : Nat} {w t : Text} {ps : List (Nat × Text)} (hw : IsWord w)
      (hend : ∀ c ∈ t.head?, isWordMark c = false) (rest : Scan (k + w.length) t ps) :
      Scan k (w ++ t) ((k, w) :: ps)

/-- Every text can be scanned. -/
theorem exists_scan (k : Nat) (t : Text) : ∃ ps, Scan k t ps := by
  induction hn : t.length using Nat.strongRecOn generalizing k t with
  | ind n ih =>
    cases t with
    | nil => exact ⟨[], Scan.done⟩
    | cons c t =>
      by_cases hc : isWordMark c = true
      · -- the run at the front, and what stands behind it
        have hsplit : (c :: t) = (c :: t.takeWhile isWordMark) ++ t.dropWhile isWordMark := by
          rw [List.cons_append, List.takeWhile_append_dropWhile]
        have hw : IsWord (c :: t.takeWhile isWordMark) := by
          refine ⟨List.cons_ne_nil _ _, List.forall_mem_cons.mpr ⟨hc, ?_⟩⟩
          exact fun d hd => List.mem_takeWhile_imp hd
        have hend : ∀ d ∈ (t.dropWhile isWordMark).head?, isWordMark d = false :=
          fun d hd => Text.head_dropWhile hd
        have hlength := (List.dropWhile_suffix (l := t) isWordMark).length_le
        rw [List.length_cons] at hn
        obtain ⟨ps, hps⟩ := ih (t.dropWhile isWordMark).length (by omega)
          (k + (c :: t.takeWhile isWordMark).length) _ rfl
        exact ⟨_, hsplit ▸ Scan.word hw hend hps⟩
      · rw [List.length_cons] at hn
        obtain ⟨ps, hps⟩ := ih t.length (by omega) (k + 1) t rfl
        exact ⟨ps, Scan.skip (by simpa using hc) hps⟩

namespace Scan

variable {k : Nat} {t : Text} {ps : List (Nat × Text)}

/-- **The words of a text are the runs that a scan finds.** -/
theorem words (h : Scan k t ps) : words t = ps.map Prod.snd := by
  induction h with
  | done => rfl
  | skip hc _ ih => rw [words_cons hc, ih]
  | word hw hend _ ih =>
    rw [words_append hw hend, ih]
    rfl

/-- **A scan finds the longest runs and nothing else**, each at its place. -/
theorem mem_iff (h : Scan k t ps) (i : Nat) (v : Text) :
    (i, v) ∈ ps ↔ ∃ j, i = k + j ∧ RunAt t j v := by
  induction h with
  | done => simp [not_runAt_nil]
  | @skip k c t ps hc _ ih =>
    rw [ih]
    constructor
    · rintro ⟨j, rfl, hrun⟩
      exact ⟨j + 1, by omega, (runAt_cons hc t _ v).mpr ⟨j, rfl, hrun⟩⟩
    · rintro ⟨j, rfl, hrun⟩
      obtain ⟨j, rfl, hrest⟩ := (runAt_cons hc t _ v).mp hrun
      exact ⟨j, by omega, hrest⟩
  | @word k w t ps hw hend _ ih =>
    rw [List.mem_cons, ih, Prod.mk.injEq]
    constructor
    · rintro (⟨rfl, rfl⟩ | ⟨j, rfl, hrun⟩)
      · exact ⟨0, rfl, (runAt_append hw hend _ _).mpr (Or.inl ⟨rfl, rfl⟩)⟩
      · exact ⟨w.length + j, by omega, (runAt_append hw hend _ v).mpr (Or.inr ⟨j, rfl, hrun⟩)⟩
    · rintro ⟨j, rfl, hrun⟩
      rcases (runAt_append hw hend j v).mp hrun with ⟨rfl, rfl⟩ | ⟨j, rfl, hrest⟩
      · exact Or.inl ⟨rfl, rfl⟩
      · exact Or.inr ⟨j, by omega, hrest⟩

/-- The places of the runs ascend from the first place on. -/
theorem ascending (h : Scan k t ps) :
    ps.Pairwise (fun p q => p.1 < q.1) ∧ ∀ p ∈ ps, k ≤ p.1 := by
  induction h with
  | done => exact ⟨List.Pairwise.nil, List.forall_mem_nil _⟩
  | skip _ _ ih => exact ⟨ih.1, fun p hp => by have := ih.2 p hp; omega⟩
  | @word k w t ps hw _ _ ih =>
    have hlength := List.length_pos_iff.mpr hw.1
    refine ⟨List.pairwise_cons.mpr ⟨?_, ih.1⟩, List.forall_mem_cons.mpr ⟨Nat.le_refl k, ?_⟩⟩
    · intro p hp
      have hle := ih.2 p hp
      show k < p.1
      omega
    · intro p hp
      have hle := ih.2 p hp
      omega

end Scan

/-! ## §4. Places of words. -/

/-- The words of a text are the words that stand in it as longest runs. -/
theorem mem_words_iff (t w : Text) : w ∈ words t ↔ ∃ i, RunAt t i w := by
  obtain ⟨ps, hscan⟩ := exists_scan 0 t
  rw [hscan.words, List.mem_map]
  constructor
  · rintro ⟨⟨i, w⟩, hp, rfl⟩
    obtain ⟨j, -, hrun⟩ := (hscan.mem_iff i w).mp hp
    exact ⟨j, hrun⟩
  · rintro ⟨i, hrun⟩
    exact ⟨(i, w), (hscan.mem_iff i w).mpr ⟨i, (Nat.zero_add i).symm, hrun⟩, rfl⟩

/-- **A word is counted once for each of its places.** -/
theorem ncard_runAt (t w : Text) : {i | RunAt t i w}.ncard = (words t).count w := by
  obtain ⟨ps, hscan⟩ := exists_scan 0 t
  let places := (ps.filter fun p => p.2 == w).map Prod.fst
  have hplaces : {i | RunAt t i w} = places.toFinset := by
    ext i
    simp only [places, Set.mem_ofPred_eq, Finset.mem_coe, List.mem_toFinset, List.mem_map,
      List.mem_filter, beq_iff_eq]
    constructor
    · intro hrun
      exact ⟨(i, w), ⟨(hscan.mem_iff i w).mpr ⟨i, (Nat.zero_add i).symm, hrun⟩, rfl⟩, rfl⟩
    · rintro ⟨⟨i, w⟩, ⟨hp, rfl⟩, rfl⟩
      obtain ⟨j, rfl, hrun⟩ := (hscan.mem_iff _ w).mp hp
      rwa [Nat.zero_add]
  have hnodup : places.Nodup := by
    have hascending := hscan.ascending.1.filter fun p => p.2 == w
    exact (List.pairwise_map.mpr hascending).imp fun hlt => Nat.ne_of_lt hlt
  rw [hplaces, Set.ncard_coe_finset, List.toFinset_card_of_nodup hnodup, List.length_map,
    hscan.words, List.count, List.countP_map, List.countP_eq_length_filter]
  rfl

/-- The word `v` stands in the text before `w` does for the first time. -/
def AppearsBefore (t v w : Text) : Prop := ∃ i, RunAt t i v ∧ ∀ j, RunAt t j w → i < j

/-- **Words come in the order in which they stand**: what is not among the words up to some word
appears after that word. -/
theorem appearsBefore {t v w : Text} {earlier later : List Text}
    (h : words t = earlier ++ v :: later) (hv : w ≠ v) (hw : w ∉ earlier) :
    AppearsBefore t v w := by
  obtain ⟨ps, hscan⟩ := exists_scan 0 t
  rw [hscan.words] at h
  obtain ⟨front, rest, rfl, rfl, hrest⟩ := List.map_eq_append_iff.mp h
  obtain ⟨⟨i, v⟩, back, rfl, rfl, rfl⟩ := List.map_eq_cons_iff.mp hrest
  have hplace (j : Nat) (u : Text) (hrun : RunAt t j u) :
      (j, u) ∈ front ++ (i, v) :: back :=
    (hscan.mem_iff j u).mpr ⟨j, (Nat.zero_add j).symm, hrun⟩
  obtain ⟨j, hj, hrun⟩ := (hscan.mem_iff i v).mp (by simp)
  rw [Nat.zero_add] at hj
  refine ⟨i, hj ▸ hrun, fun j hrunw => ?_⟩
  -- the runs of `w` stand behind that of `v`
  rcases List.mem_append.mp (hplace j w hrunw) with hp | hp
  · exact absurd (List.mem_map.mpr ⟨(j, w), hp, rfl⟩) hw
  · rcases List.mem_cons.mp hp with hp | hp
    · exact absurd (Prod.mk.inj hp).2 hv
    · have hascending := (List.pairwise_append.mp hscan.ascending.1).2.1
      exact (List.pairwise_cons.mp hascending).1 (j, w) hp

end WordCount

end JobWatch
