/-
  JobWatch.Proofs.WordTally
  ─────────────────────────
  **A TALLY OF WORDS IN ORDER.**

  A word that comes is counted where it stands in the tally, or goes to the
  end of it when it is new.  So a tally has each of its words once, in the
  order in which they first came, with the number of times they came:

      Tally.add_cases — what one word more does
      Tallies.add     — a tally of words, and one word more
      tallies_words   — the tally of a list of words
      countLines_eq   — lines are counted as one text, and each by itself
-/
import Mathlib.Data.List.Nodup
import JobWatch.WordCount.Tally

namespace JobWatch

namespace WordCount

/-! ## §1. One word more. -/

namespace Tally

/-- The words of a tally, in order. -/
def keys (tally : Tally) : List Text := tally.map Prod.fst

/-- **What one word more does**: the word is counted where it stands, or it goes to the end. -/
theorem add_cases (w : Text) (tally : Tally) :
    (∃ front n back, tally = front ++ (w, n) :: back ∧ w ∉ Tally.keys front
        ∧ tally.add w = front ++ (w, n + 1) :: back)
      ∨ (w ∉ tally.keys ∧ tally.add w = tally ++ [(w, 1)]) := by
  induction tally with
  | nil => exact Or.inr ⟨List.not_mem_nil, rfl⟩
  | cons e tally ih =>
    obtain ⟨v, n⟩ := e
    by_cases hv : v = w
    · subst hv
      exact Or.inl ⟨[], n, tally, rfl, List.not_mem_nil, if_pos rfl⟩
    -- the entry in front is that of another word, and stays in front
    have hstep : Tally.add w ((v, n) :: tally) = (v, n) :: Tally.add w tally := if_neg hv
    have hkeys (rest : Tally) (h : w ∉ rest.keys) : w ∉ Tally.keys ((v, n) :: rest) := by
      rw [keys, List.map_cons, List.mem_cons, not_or]
      exact ⟨fun hw => hv hw.symm, h⟩
    rw [hstep]
    rcases ih with ⟨front, m, back, rfl, hnew, hadd⟩ | ⟨hnew, hadd⟩
    · refine Or.inl ⟨(v, n) :: front, m, back, rfl, hkeys front hnew, ?_⟩
      rw [hadd]
      rfl
    · refine Or.inr ⟨hkeys tally hnew, ?_⟩
      rw [hadd]
      rfl

end Tally

/-! ## §2. Tallies of words. -/

/-- Among some words `v` comes before `w` does for the first time. -/
def ComesBefore (ws : List Text) (v w : Text) : Prop :=
  ∃ earlier later, ws = earlier ++ v :: later ∧ w ∉ earlier

theorem ComesBefore.append {ws : List Text} {v w : Text} (h : ComesBefore ws v w)
    (more : List Text) : ComesBefore (ws ++ more) v w := by
  obtain ⟨earlier, later, rfl, hw⟩ := h
  refine ⟨earlier, later ++ more, ?_, hw⟩
  rw [List.append_assoc, List.cons_append]

/-- What the tally of some words is. -/
structure Tallies (ws : List Text) (tally : Tally) : Prop where
  /-- No word stands in it twice. -/
  distinct : tally.keys.Nodup
  /-- It has the words that come. -/
  complete : ∀ w, w ∈ tally.keys ↔ w ∈ ws
  /-- With each word goes how often it comes. -/
  counted : ∀ e ∈ tally, e.2 = ws.count e.1
  /-- The words are in the order in which they first come. -/
  ordered : tally.keys.Pairwise (ComesBefore ws)

theorem tallies_nil : Tallies [] [] where
  distinct := List.nodup_nil
  complete := fun _ => Iff.rfl
  counted := List.forall_mem_nil _
  ordered := List.Pairwise.nil

namespace Tallies

variable {ws : List Text} {tally : Tally}

/-- A word that a tally has is counted in its place. -/
theorem add_known {front back : Tally} {w : Text} {n : Nat}
    (h : Tallies ws (front ++ (w, n) :: back)) :
    Tallies (ws ++ [w]) (front ++ (w, n + 1) :: back) := by
  have hkeys : Tally.keys (front ++ (w, n + 1) :: back)
      = Tally.keys (front ++ (w, n) :: back) := by
    simp only [Tally.keys, List.map_append, List.map_cons]
  have hknown : w ∈ ws := (h.complete w).mp (by simp [Tally.keys])
  -- the words and their order stay, and one count goes up with the number of times it came
  refine ⟨hkeys ▸ h.distinct, fun v => ?_, fun e he => ?_, ?_⟩
  · rw [hkeys, h.complete, List.mem_append, List.mem_singleton]
    exact ⟨Or.inl, fun hv => hv.elim id fun heq => heq ▸ hknown⟩
  · -- the other entries are entries of other words, because the words are distinct
    have hother : ∀ e ∈ front ++ back, e.1 ≠ w := by
      have hmiddle := List.nodup_middle.mp (by
        simpa only [Tally.keys, List.map_append, List.map_cons] using h.distinct)
      intro e he heq
      refine (List.nodup_cons.mp hmiddle).1 ?_
      rw [← List.map_append, ← heq]
      exact List.mem_map_of_mem he
    rcases List.mem_cons.mp (List.perm_middle.mem_iff.mp he) with rfl | he
    · rw [List.count_append, List.count_singleton_self, ← h.counted (w, n) (by simp)]
    · have hne := hother e he
      rw [List.count_append, List.count_singleton, if_neg (by simpa using hne.symm), Nat.add_zero]
      exact h.counted e (List.perm_middle.mem_iff.mpr (List.mem_cons_of_mem _ he))
  · rw [hkeys]
    exact h.ordered.imp fun hbefore => hbefore.append [w]

/-- A word that a tally does not have goes to its end. -/
theorem add_new {w : Text} (h : Tallies ws tally) (hnew : w ∉ tally.keys) :
    Tallies (ws ++ [w]) (tally ++ [(w, 1)]) := by
  have hkeys : Tally.keys (tally ++ [(w, 1)]) = tally.keys ++ [w] := by
    simp only [Tally.keys, List.map_append, List.map_cons, List.map_nil]
  have hw : w ∉ ws := fun hw => hnew ((h.complete w).mpr hw)
  refine ⟨?_, fun v => ?_, fun e he => ?_, ?_⟩
  · rw [hkeys, ← List.concat_eq_append]
    exact (List.nodup_concat _ _).mpr ⟨hnew, h.distinct⟩
  · rw [hkeys, List.mem_append, List.mem_append, h.complete]
  · rcases List.mem_append.mp he with he | he
    · have hne : w ≠ e.1 := fun heq => hnew (heq ▸ List.mem_map_of_mem he)
      rw [List.count_append, List.count_singleton, if_neg (by simpa using hne), Nat.add_zero]
      exact h.counted e he
    · obtain rfl := List.mem_singleton.mp he
      rw [List.count_append, List.count_singleton_self, List.count_eq_zero_of_not_mem hw]
  · rw [hkeys]
    refine List.pairwise_append.mpr
      ⟨h.ordered.imp fun hbefore => hbefore.append [w], List.pairwise_singleton _ _, ?_⟩
    intro v hv x hx
    obtain rfl := List.mem_singleton.mp hx
    -- a word that has come stands before the new one
    obtain ⟨earlier, later, rfl⟩ := List.append_of_mem ((h.complete v).mp hv)
    refine ComesBefore.append ⟨earlier, later, rfl, ?_⟩ [x]
    exact fun hmem => hw (List.mem_append_left _ hmem)

/-- **A tally of words, and one word more.** -/
theorem add (h : Tallies ws tally) (w : Text) : Tallies (ws ++ [w]) (tally.add w) := by
  rcases tally.add_cases w with ⟨front, n, back, rfl, -, hadd⟩ | ⟨hnew, hadd⟩
  · rw [hadd]
    exact h.add_known
  · rw [hadd]
    exact h.add_new hnew

theorem addAll (h : Tallies ws tally) (more : List Text) :
    Tallies (ws ++ more) (tally.addAll more) := by
  induction more generalizing ws tally with
  | nil => rwa [List.append_nil]
  | cons w more ih =>
    have hrest := ih (h.add w)
    rwa [List.append_assoc, List.singleton_append] at hrest

end Tallies

/-- **The tally of a list of words.** -/
theorem tallies_words (ws : List Text) : Tallies ws (Tally.addAll [] ws) :=
  tallies_nil.addAll ws

/-! ## §3. Line by line. -/

theorem Tally.addAll_append (tally : Tally) (ws more : List Text) :
    tally.addAll (ws ++ more) = (tally.addAll ws).addAll more := List.foldl_append

theorem foldl_addLine (lines : List Text) (c : Counts) :
    lines.foldl Counts.addLine c
      = { tally := c.tally.addAll (lines.flatMap words)
          emptyLines := c.emptyLines + lines.countP fun l => l.trim.isEmpty } := by
  induction lines generalizing c with
  | nil => rfl
  | cons line lines ih =>
    rw [List.foldl_cons, ih, List.flatMap_cons, Tally.addAll_append, List.countP_cons]
    unfold Counts.addLine
    by_cases hblank : line.trim.isEmpty = true
    · simp only [if_pos hblank]
      congr 1
      omega
    · simp only [if_neg hblank]
      rfl

/-- **Lines are counted as one text, and each by itself**: their words make one tally, and those
that are blank are counted. -/
theorem countLines_eq (lines : List Text) :
    countLines lines
      = { tally := Tally.addAll [] (lines.flatMap words)
          emptyLines := lines.countP fun l => l.trim.isEmpty } := by
  unfold countLines
  rw [foldl_addLine, Nat.zero_add]

end WordCount

end JobWatch
