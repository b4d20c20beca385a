/-
  JobWatch.Proofs.TextPieces
  ──────────────────────────
  **RUNS, AND PIECES BETWEEN SEPARATORS.**

  A run at the front of a text ends where the text stops or goes on with what
  is not part of it.  A text falls into pieces at its separators.  A separator
  splits the pieces of what stands before it from the pieces of what stands
  behind it, and a text without separators is one piece; everything else
  follows:

      takeWhile_run          — a run is taken from the front as a whole
      splitWhere_append_cons — a separator splits the pieces
      splitWhere_of_none     — without separators there is one piece
      splitAt_join           — pieces that are joined are found again
      length_splitAt         — there is one piece more than separators
-/
import JobWatch.Text.CodePoint

namespace JobWatch

namespace Text

theorem ofString_append (s s' : String) : ofString (s ++ s') = ofString s ++ ofString s' := by
  unfold ofString
  rw [String.toList_append, List.map_append]

/-! ## §1. Runs. -/

section Runs

variable {passes : CodePoint → Bool}

/-- **A run is taken from the front as a whole**, if the text does not go on with more of it. -/
theorem takeWhile_run {run rest : Text} (hrun : ∀ c ∈ run, passes c = true)
    (hend : ∀ c ∈ rest.head?, passes c = false) : (run ++ rest).takeWhile passes = run := by
  rw [List.takeWhile_append_of_pos hrun]
  cases rest with
  | nil => exact List.append_nil run
  | cons c rest =>
    have hc : passes c = false := hend c rfl
    rw [List.takeWhile_cons_of_neg (by rw [hc]; decide), List.append_nil]

/-- What stands behind the run is what is left. -/
theorem dropWhile_run {run rest : Text} (hrun : ∀ c ∈ run, passes c = true)
    (hend : ∀ c ∈ rest.head?, passes c = false) : (run ++ rest).dropWhile passes = rest := by
  rw [List.dropWhile_append_of_pos hrun]
  cases rest with
  | nil => rfl
  | cons c rest =>
    have hc : passes c = false := hend c rfl
    exact List.dropWhile_cons_of_neg (by rw [hc]; decide)

/-- What is left does not go on with more of the run. -/
theorem head_dropWhile {t : Text} {c : CodePoint} (h : c ∈ (t.dropWhile passes).head?) :
    passes c = false := by
  have hhead := List.head?_dropWhile_not passes t
  rw [Option.mem_def.mp h] at hhead
  exact hhead

end Runs

/-! ## §2. Pieces. -/

theorem extend_ne_nil (c : CodePoint) (pieces : List Text) : extend c pieces ≠ [] := by
  cases pieces <;> simp [extend]

theorem splitWhere_ne_nil (separates : CodePoint → Bool) (t : Text) :
    t.splitWhere separates ≠ [] := by
  cases t with
  | nil => exact List.cons_ne_nil _ _
  | cons c t =>
    rw [splitWhere]
    split
    · exact List.cons_ne_nil _ _
    · exact extend_ne_nil c _

/-- A code point joins the first piece, whatever pieces come behind. -/
theorem extend_append (c : CodePoint) {pieces : List Text} (h : pieces ≠ []) (more : List Text) :
    extend c (pieces ++ more) = extend c pieces ++ more := by
  cases pieces with
  | nil => exact absurd rfl h
  | cons piece pieces => rfl

/-- **A separator splits the pieces** before it from those behind it. -/
theorem splitWhere_append_cons {separates : CodePoint → Bool} {c : CodePoint}
    (h : separates c = true) (before rest : Text) :
    (before ++ c :: rest).splitWhere separates
      = before.splitWhere separates ++ rest.splitWhere separates := by
  induction before with
  | nil =>
    show splitWhere separates (c :: rest) = [] :: splitWhere separates rest
    exact if_pos h
  | cons d before ih =>
    rw [List.cons_append, splitWhere, splitWhere, ih]
    by_cases hd : separates d = true
    · rw [if_pos hd, if_pos hd]
      rfl
    · rw [if_neg hd, if_neg hd, extend_append d (splitWhere_ne_nil separates before)]

/-- **Without separators there is one piece.** -/
theorem splitWhere_of_none {separates : CodePoint → Bool} {t : Text}
    (h : ∀ c ∈ t, separates c = false) : t.splitWhere separates = [t] := by
  induction t with
  | nil => rfl
  | cons c t ih =>
    rw [splitWhere, if_neg (by simp [h c List.mem_cons_self]),
      ih fun d hd => h d (List.mem_cons_of_mem _ hd)]
    rfl

/-- A run without separators in front of the first one is the first piece. -/
theorem splitAt_append {c : CodePoint} {run : Text} (h : ∀ d ∈ run, d ≠ c) (rest : Text) :
    splitAt c (run ++ c :: rest) = run :: splitAt c rest := by
  unfold splitAt
  rw [splitWhere_append_cons (by simp), splitWhere_of_none fun d hd => decide_eq_false (h d hd)]
  rfl

/-- **Pieces that are joined are found again.** -/
theorem splitAt_join {c : CodePoint} {pieces : List Text} (hne : pieces ≠ [])
    (h : ∀ p ∈ pieces, ∀ d ∈ p, d ≠ c) : splitAt c (join [c] pieces) = pieces := by
  induction pieces with
  | nil => exact absurd rfl hne
  | cons p pieces ih =>
    have hp := h p List.mem_cons_self
    cases pieces with
    | nil => exact splitWhere_of_none fun d hd => decide_eq_false (hp d hd)
    | cons q pieces =>
      show splitAt c (p ++ [c] ++ join [c] (q :: pieces)) = _
      rw [List.append_assoc, List.singleton_append, splitAt_append hp,
        ih (by simp) fun r hr => h r (List.mem_cons_of_mem _ hr)]

/-- Runs that are each ended by a separator are the pieces, and nothing stands behind the last
one. -/
theorem splitAt_flatMap {c : CodePoint} {runs : List Text} (h : ∀ r ∈ runs, ∀ d ∈ r, d ≠ c) :
    splitAt c (runs.flatMap fun r => r ++ [c]) = runs ++ [[]] := by
  induction runs with
  | nil => rfl
  | cons r runs ih =>
    obtain ⟨hr, hruns⟩ := List.forall_mem_cons.mp h
    rw [List.flatMap_cons, List.append_assoc, List.singleton_append, splitAt_append hr, ih hruns]
    rfl

/-- **There is one piece more than separators.** -/
theorem length_splitAt (c : CodePoint) (t : Text) : (t.splitAt c).length = t.count c + 1 := by
  induction t with
  | nil => rfl
  | cons d t ih =>
    have hlength (pieces : List Text) (hne : pieces ≠ []) :
        (extend d pieces).length = pieces.length := by
      cases pieces with
      | nil => exact absurd rfl hne
      | cons piece pieces => rfl
    unfold splitAt at ih ⊢
    rw [splitWhere]
    by_cases hd : d = c
    · rw [if_pos (decide_eq_true hd), List.length_cons, ih, hd, List.count_cons_self]
    · rw [if_neg (by simp [hd]), hlength _ (splitWhere_ne_nil _ t), ih,
        List.count_cons_of_ne hd]

/-! ## §3. Cutting at a separator. -/

theorem cut?_append {c : CodePoint} {run : Text} (h : ∀ d ∈ run, d ≠ c) (rest : Text) :
    (run ++ c :: rest).cut? c = some (run, rest) := by
  have hpass : ∀ d ∈ run, (fun d => decide (d ≠ c)) d = true := by
    intro d hd
    exact decide_eq_true (h d hd)
  have hend : ∀ d ∈ (c :: rest).head?, (fun d => decide (d ≠ c)) d = false := by
    intro d hd
    obtain rfl : c = d := Option.some.inj hd
    exact decide_eq_false (not_not_intro rfl)
  unfold cut?
  rw [dropWhile_run hpass hend, takeWhile_run hpass hend]

/-- Where nothing separates, nothing is cut. -/
theorem cut?_of_none {c : CodePoint} {t : Text} (h : ∀ d ∈ t, d ≠ c) : t.cut? c = none := by
  have hpass : ∀ d ∈ t, (fun d => decide (d ≠ c)) d = true := by
    intro d hd
    exact decide_eq_true (h d hd)
  unfold cut?
  rw [← List.append_nil t, List.dropWhile_append_of_pos hpass]
  rfl

end Text

end JobWatch
