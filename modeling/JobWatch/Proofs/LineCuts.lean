/-
  JobWatch.Proofs.LineCuts
  ────────────────────────
  **COUNTING DOES NOT DEPEND ON THE CUTS.**

  A cut beside a character that is no word mark splits no word.  So however a
  text is cut at such places, its words are those of the pieces, and lines
  count alone what they count together:

      words_flatten       — the words of a text are those of its pieces
      count_addAll        — words are counted on top of what was counted
      keys_addAll         — new words come behind the known ones
      total_addAll        — each word adds one to the sum of the counts
      countLines_any_cuts — cuts, two lists of lines, their order, the sum
-/
import JobWatch.Proofs.WordRuns
import JobWatch.Proofs.WordTally

namespace JobWatch

namespace WordCount

/-! ## §1. Cuts. -/

/-- The characters right before and right behind a cut are not both word marks. -/
def CleanCut (before behind : Text) : Prop :=
  ∀ c ∈ before.getLast?, ∀ d ∈ behind.head?, isWordMark c = false ∨ isWordMark d = false

instance (before behind : Text) : Decidable (CleanCut before behind) :=
  inferInstanceAs (Decidable (∀ c ∈ before.getLast?, ∀ d ∈ behind.head?, _ ∨ _))

/-- The pieces come from a text that is cut at such places only.  A piece may be empty, and then
the characters beside its cuts are those of other pieces. -/
def CleanlyCut (pieces : List Text) : Prop :=
  ∀ front back, pieces = front ++ back → CleanCut front.flatten back.flatten

/-- **A cut that splits no word splits the words.** -/
theorem words_append_of_cleanCut {s t : Text} (h : CleanCut s t) :
    words (s ++ t) = words s ++ words t := by
  rcases List.eq_nil_or_concat s with rfl | ⟨front, c, rfl⟩
  · rfl
  cases t with
  | nil =>
    rw [List.append_nil]
    exact (List.append_nil _).symm
  | cons d rest =>
    rw [List.concat_eq_append] at h ⊢
    rcases h c (by simp) d rfl with hc | hd
    · rw [List.append_assoc, List.singleton_append, words_append_cons hc, words_append_cons hc]
      show _ = words front ++ [] ++ words (d :: rest)
      rw [List.append_nil]
    · rw [words_append_cons hd, words_cons hd]

theorem cleanlyCut_nil : CleanlyCut [] := by
  intro front back h c hc
  rw [(List.append_eq_nil_iff.mp h.symm).1] at hc
  exact absurd hc (by simp)

/-- Pieces are cut cleanly when the first one is, and the others are. -/
theorem cleanlyCut_cons_iff (p : Text) (pieces : List Text) :
    CleanlyCut (p :: pieces) ↔ CleanCut p pieces.flatten ∧ CleanlyCut pieces := by
  constructor
  · intro h
    constructor
    · have hfirst := h [p] pieces rfl
      rwa [List.flatten_singleton] at hfirst
    · intro front back hpieces c hc d hd
      apply h (p :: front) back (by rw [hpieces]; rfl) c _ d hd
      rw [List.flatten_cons]
      exact List.mem_getLast?_append_of_mem_getLast? hc
  · intro h front back hpieces
    obtain ⟨hfirst, hrest⟩ := h
    cases front with
    | nil =>
      intro c hc
      exact absurd hc (by simp)
    | cons q front =>
      obtain ⟨hq, hbehind⟩ := List.cons.inj hpieces
      subst q
      intro c hc d hd
      rw [List.flatten_cons] at hc
      by_cases hempty : front.flatten = []
      · -- up to the cut there is nothing but the first piece
        rw [hempty, List.append_nil] at hc
        apply hfirst c hc d
        rw [hbehind]
        show d ∈ (front ++ back).flatten.head?
        rwa [List.flatten_append, hempty, List.nil_append]
      · rw [List.getLast?_append_of_ne_nil _ hempty] at hc
        exact hrest front back hbehind c hc d hd

/-- **The words of a text are those of its pieces**, in order. -/
theorem words_flatten {pieces : List Text} (h : CleanlyCut pieces) :
    words pieces.flatten = pieces.flatMap words := by
  induction pieces with
  | nil => rfl
  | cons p pieces ih =>
    obtain ⟨hfirst, hrest⟩ := (cleanlyCut_cons_iff p pieces).mp h
    rw [List.flatten_cons, List.flatMap_cons, words_append_of_cleanCut hfirst, ih hrest]

/-! ## §2. Counts on top of counts. -/

namespace Tally

theorem count_cons (v : Text) (n : Nat) (rest : Tally) (w : Text) :
    Tally.count ((v, n) :: rest) w = if w = v then n else Tally.count rest w := by
  unfold count
  rw [List.lookup_cons]
  by_cases hw : w = v
  · rw [if_pos hw, beq_iff_eq.mpr hw]
    rfl
  · rw [if_neg hw, beq_eq_false_iff_ne.mpr hw]

/-- One word more is counted once more, and no other word is. -/
theorem count_add (tally : Tally) (v w : Text) :
    (tally.add v).count w = tally.count w + if w = v then 1 else 0 := by
  induction tally with
  | nil =>
    show Tally.count [(v, 1)] w = _
    rw [count_cons]
    show (if w = v then 1 else 0) = 0 + _
    rw [Nat.zero_add]
  | cons e tally ih =>
    obtain ⟨u, n⟩ := e
    rw [add]
    by_cases hu : u = v
    · subst hu
      rw [if_pos rfl, count_cons, count_cons]
      by_cases hw : w = u
      · rw [if_pos hw, if_pos hw, if_pos hw]
      · rw [if_neg hw, if_neg hw, if_neg hw]
        rfl
    · rw [if_neg hu, count_cons, count_cons, ih]
      by_cases hw : w = u
      · rw [if_pos hw, if_pos hw, if_neg (by rw [hw]; exact hu)]
        rfl
      · rw [if_neg hw, if_neg hw]

/-- **Words are counted on top of what was counted.** -/
theorem count_addAll (tally : Tally) (ws : List Text) (w : Text) :
    (tally.addAll ws).count w = tally.count w + ws.count w := by
  induction ws generalizing tally with
  | nil => rfl
  | cons v ws ih =>
    show (Tally.addAll (tally.add v) ws).count w = _
    rw [ih, count_add, Nat.add_assoc]
    by_cases hw : w = v
    · rw [if_pos hw, hw, List.count_cons_self, Nat.add_comm 1]
    · rw [if_neg hw, List.count_cons_of_ne (Ne.symm hw), Nat.zero_add]

/-! ## §3. The order of words. -/

theorem keys_add (tally : Tally) (w : Text) :
    (tally.add w).keys = if w ∈ tally.keys then tally.keys else tally.keys ++ [w] := by
  rcases tally.add_cases w with ⟨front, n, back, rfl, -, hadd⟩ | ⟨hnew, hadd⟩
  · rw [hadd, if_pos (by simp [keys])]
    simp only [keys, List.map_append, List.map_cons]
  · rw [hadd, if_neg hnew]
    exact List.map_append

/-- **New words come behind the known ones**, in the order in which they come. -/
theorem keys_addAll (tally : Tally) (ws : List Text) :
    (tally.addAll ws).keys
      = tally.keys ++ (Tally.addAll [] ws).keys.filter fun w => w ∉ tally.keys := by
  induction ws using List.reverseRecOn with
  | nil => exact (List.append_nil _).symm
  | append_singleton ws w ih =>
    rw [addAll_append, addAll_append]
    show (Tally.add w (tally.addAll ws)).keys = _ ++ (Tally.add w (Tally.addAll [] ws)).keys.filter _
    rw [keys_add, keys_add, ih]
    by_cases hcame : w ∈ (Tally.addAll [] ws).keys
    · -- a word that came before changes no order
      rw [if_pos hcame, if_pos]
      by_cases hknown : w ∈ tally.keys
      · exact List.mem_append_left _ hknown
      · exact List.mem_append_right _ (List.mem_filter.mpr ⟨hcame, by simpa using hknown⟩)
    · rw [if_neg hcame, List.filter_append]
      by_cases hknown : w ∈ tally.keys
      · rw [if_pos (List.mem_append_left _ hknown), List.filter_cons_of_neg (by simpa using hknown)]
        exact (congrArg _ (List.append_nil _)).symm
      · rw [if_neg, List.filter_cons_of_pos (by simpa using hknown), List.append_assoc]
        · rfl
        intro hmem
        rcases List.mem_append.mp hmem with hmem | hmem
        · exact hknown hmem
        · exact hcame (List.mem_filter.mp hmem).1

/-! ## §4. The sum of the counts. -/

/-- The sum of the counts. -/
def total (tally : Tally) : Nat := (tally.map Prod.snd).sum

theorem total_add (tally : Tally) (w : Text) : (tally.add w).total = tally.total + 1 := by
  rcases tally.add_cases w with ⟨front, n, back, rfl, -, hadd⟩ | ⟨-, hadd⟩
  · rw [hadd]
    simp only [total, List.map_append, List.map_cons, List.sum_append, List.sum_cons]
    omega
  · rw [hadd]
    simp only [total, List.map_append, List.map_cons, List.map_nil, List.sum_append,
      List.sum_cons, List.sum_nil, Nat.add_zero]

/-- **Each word adds one to the sum of the counts.** -/
theorem total_addAll (tally : Tally) (ws : List Text) :
    (tally.addAll ws).total = tally.total + ws.length := by
  induction ws generalizing tally with
  | nil => rfl
  | cons w ws ih =>
    show (Tally.addAll (tally.add w) ws).total = _
    rw [ih, total_add, List.length_cons]
    omega

end Tally

/-! ## §5. Lines. -/

theorem tally_countLines (lines : List Text) :
    (countLines lines).tally = Tally.addAll [] (lines.flatMap words) := by
  rw [countLines_eq]

theorem emptyLines_countLines (lines : List Text) :
    (countLines lines).emptyLines = lines.countP fun l => l.trim.isEmpty := by
  rw [countLines_eq]

/-- How often a word is counted in some lines is how often it is among their words. -/
theorem count_countLines (lines : List Text) (w : Text) :
    (countLines lines).tally.count w = (lines.flatMap words).count w := by
  rw [tally_countLines, Tally.count_addAll]
  exact Nat.zero_add _

/-- The new words of further lines come behind the words of the lines before them. -/
theorem keys_countLines_append (xs ys : List Text) :
    (countLines (xs ++ ys)).tally.keys
      = (countLines xs).tally.keys
        ++ (countLines ys).tally.keys.filter fun w => w ∉ (countLines xs).tally.keys := by
  rw [tally_countLines, tally_countLines, tally_countLines, List.flatMap_append,
    Tally.addAll_append, Tally.keys_addAll]

/-- The counts of some lines add up to the number of their words. -/
theorem total_countLines (lines : List Text) :
    (countLines lines).tally.total = (lines.map fun line => (words line).length).sum := by
  rw [tally_countLines, Tally.total_addAll, List.length_flatMap]
  exact Nat.zero_add _

/-- **Counting does not depend on how a text is cut into lines.**  Pieces of a text that is cut
beside characters that are no word marks have the tally of the words of that text, with the words
in the order in which they first come.  Two lists of lines one after the other have the sum of
their counts and of their blank lines, and the words of the first in front of the new words of the
second.  The order of the lines changes neither a count nor the number of blank lines.  The counts
add up to the number of words. -/
theorem countLines_any_cuts :
    (∀ pieces, CleanlyCut pieces →
        (countLines pieces).tally = Tally.addAll [] (words pieces.flatten)
          ∧ Tallies (words pieces.flatten) (countLines pieces).tally)
      ∧ (∀ xs ys,
          (∀ w, (countLines (xs ++ ys)).tally.count w
              = (countLines xs).tally.count w + (countLines ys).tally.count w)
            ∧ (countLines (xs ++ ys)).emptyLines
              = (countLines xs).emptyLines + (countLines ys).emptyLines
            ∧ (countLines (xs ++ ys)).tally.keys
              = (countLines xs).tally.keys
                ++ (countLines ys).tally.keys.filter fun w => w ∉ (countLines xs).tally.keys)
      ∧ (∀ xs ys, xs.Perm ys →
          (∀ w, (countLines xs).tally.count w = (countLines ys).tally.count w)
            ∧ (countLines xs).emptyLines = (countLines ys).emptyLines)
      ∧ ∀ xs, (countLines xs).tally.total = (xs.map fun line => (words line).length).sum := by
  refine ⟨?_, ?_, ?_, total_countLines⟩
  · intro pieces h
    have htally : (countLines pieces).tally = Tally.addAll [] (words pieces.flatten) := by
      rw [tally_countLines, words_flatten h]
    refine ⟨htally, ?_⟩
    rw [htally]
    exact tallies_words _
  · intro xs ys
    refine ⟨fun w => ?_, ?_, keys_countLines_append xs ys⟩
    · rw [count_countLines, count_countLines, count_countLines, List.flatMap_append,
        List.count_append]
    · rw [emptyLines_countLines, emptyLines_countLines, emptyLines_countLines,
        List.countP_append]
  · intro xs ys h
    refine ⟨fun w => ?_, ?_⟩
    · rw [count_countLines, count_countLines]
      exact (h.flatMap_right words).count_eq w
    · rw [emptyLines_countLines, emptyLines_countLines]
      exact h.countP_eq _

/-- A cut before a blank, behind a letter beyond ASCII and around an empty piece splits no word,
and lines may change places. -/
theorem countLines_any_cuts_accents :
    CleanlyCut ["It's", " caf", "", "é it's It's"]
      ∧ (countLines ["It's", " caf", "", "é it's It's"]).tally
        = [(Text.ofString "It's", 2), (Text.ofString "caf", 1), (Text.ofString "it's", 1)]
      ∧ (["a b", ""] : List Text).Perm ["", "a b"]
      ∧ ∀ w, (countLines ["a b", ""]).tally.count w = (countLines ["", "a b"]).tally.count w := by
  have hcut : CleanlyCut ["It's", " caf", "", "é it's It's"] := by
    simp only [cleanlyCut_cons_iff]
    exact ⟨by decide, by decide, by decide, by decide, cleanlyCut_nil⟩
  have hperm : (["a b", ""] : List Text).Perm ["", "a b"] := List.Perm.swap _ _ _
  refine ⟨hcut, ?_, hperm, (countLines_any_cuts.2.2.1 _ _ hperm).1⟩
  rw [(countLines_any_cuts.1 _ hcut).1]
  decide

end WordCount

end JobWatch
