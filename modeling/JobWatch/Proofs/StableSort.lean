/-
  JobWatch.Proofs.StableSort
  ──────────────────────────
  **STABLE SORTING, SAID WITHOUT AN ALGORITHM.**

  A list is stably sorted from another when its keys ascend and, for every
  key, the items with that key are the same in both and stand in the same
  order.  That fixes the list:

      StablySorted.unique          — two stable sorts of one list are equal
      stablySorted_mergeSort       — a merge sort by a key is one
      StablySorted.filter          — sorting and selecting commute
      StablySorted.append_at       — what lies up to a key and what lies
                                     beyond it may be sorted apart
      StablySorted.of_append       — parts may be sorted before the whole
-/
import Mathlib.Data.List.Basic
import Mathlib.Order.Lattice

namespace JobWatch

variable {α κ : Type} [LinearOrder κ]

/-! ## §1. The specification. -/

/-- `sorted` has the items of `items` in ascending order of their keys, and items of one key in
the order in which they were. -/
structure StablySorted (key : α → κ) (items sorted : List α) : Prop where
  /-- No key comes before a smaller one. -/
  ascending : sorted.Pairwise fun a b => key a ≤ key b
  /-- Items of one key are what and where they were among each other. -/
  stable : ∀ k, sorted.filter (fun a => decide (key a = k))
    = items.filter (fun a => decide (key a = k))

namespace StablySorted

variable {key : α → κ} {items sorted sorted' : List α}

/-- Sorting neither adds nor drops an item. -/
theorem mem_iff (h : StablySorted key items sorted) (a : α) : a ∈ sorted ↔ a ∈ items := by
  have hs := congrArg (a ∈ ·) (h.stable (key a))
  simpa using hs

/-- Sorting moves items, and does no more. -/
theorem perm (h : StablySorted key items sorted) : sorted.Perm items := by
  classical
  refine List.perm_iff_count.mpr fun a => ?_
  -- the copies of an item are all among the items with its key
  have hcount (l : List α) : (l.filter fun x => decide (key x = key a)).count a = l.count a :=
    List.count_filter (decide_eq_true rfl)
  rw [← hcount sorted, h.stable (key a), hcount items]

/-- The least key is found in both of two stable sorts at the front, on the same item. -/
theorem head_eq {a b : α} {as bs : List α} (h : StablySorted key items (a :: as))
    (h' : StablySorted key items (b :: bs)) : a = b := by
  have hab : key a ≤ key b := by
    rcases List.mem_cons.mp ((h.mem_iff b).mpr ((h'.mem_iff b).mp List.mem_cons_self)) with hb | hb
    · rw [hb]
    · exact (List.pairwise_cons.mp h.ascending).1 b hb
  have hba : key b ≤ key a := by
    rcases List.mem_cons.mp ((h'.mem_iff a).mpr ((h.mem_iff a).mp List.mem_cons_self)) with ha | ha
    · rw [ha]
    · exact (List.pairwise_cons.mp h'.ascending).1 a ha
  have hkey : key b = key a := le_antisymm hba hab
  -- of the items with the least key, the first is the head of either list
  have hfirst := (h.stable (key a)).trans (h'.stable (key a)).symm
  rw [List.filter_cons_of_pos (by simp), List.filter_cons_of_pos (by simp [hkey])] at hfirst
  exact (List.cons.inj hfirst).1

/-- Items that are the same for every key stay so without a common head. -/
theorem filter_tail {a : α} {as bs : List α} (k : κ)
    (h : (a :: as).filter (fun x => decide (key x = k))
      = (a :: bs).filter (fun x => decide (key x = k))) :
    as.filter (fun x => decide (key x = k)) = bs.filter (fun x => decide (key x = k)) := by
  by_cases hk : key a = k
  · rw [List.filter_cons_of_pos (by simp [hk]), List.filter_cons_of_pos (by simp [hk])] at h
    exact (List.cons.inj h).2
  · rwa [List.filter_cons_of_neg (by simp [hk]), List.filter_cons_of_neg (by simp [hk])] at h

/-- **A list has one stable sort.** -/
theorem unique (h : StablySorted key items sorted) (h' : StablySorted key items sorted') :
    sorted = sorted' := by
  induction sorted generalizing items sorted' with
  | nil =>
    cases sorted' with
    | nil => rfl
    | cons b bs =>
      have hb := (h.mem_iff b).mpr ((h'.mem_iff b).mp List.mem_cons_self)
      exact absurd hb List.not_mem_nil
  | cons a as ih =>
    cases sorted' with
    | nil =>
      have ha := (h'.mem_iff a).mpr ((h.mem_iff a).mp List.mem_cons_self)
      exact absurd ha List.not_mem_nil
    | cons b bs =>
      obtain rfl := head_eq h h'
      -- the tails are stable sorts of one list, though not of a tail of `items`
      have hrest : StablySorted key as bs :=
        ⟨(List.pairwise_cons.mp h'.ascending).2,
          fun k => (filter_tail k ((h.stable k).trans (h'.stable k).symm)).symm⟩
      rw [ih ⟨(List.pairwise_cons.mp h.ascending).2, fun _ => rfl⟩ hrest]

/-! ## §2. Selecting and joining. -/

/-- What is selected from a stable sort is the stable sort of what is selected. -/
theorem filter (h : StablySorted key items sorted) (p : α → Bool) :
    StablySorted key (items.filter p) (sorted.filter p) := by
  refine ⟨h.ascending.filter p, fun k => ?_⟩
  rw [List.filter_comm, h.stable k, List.filter_comm]

/-- A condition on keys selects all items of one key or none. -/
theorem filter_filter_key (key : α → κ) (q : κ → Bool) (k : κ) (items : List α) :
    (items.filter fun a => q (key a)).filter (fun a => decide (key a = k))
      = if q k then items.filter (fun a => decide (key a = k)) else [] := by
  rw [List.filter_filter]
  cases hq : q k with
  | true =>
    rw [if_pos rfl]
    refine List.filter_congr fun a _ => ?_
    rw [Bool.and_eq_left_iff_imp, decide_eq_true_eq]
    intro ha
    rw [ha, hq]
  | false =>
    rw [if_neg Bool.false_ne_true, List.filter_eq_nil_iff]
    intro a _ ha
    rw [Bool.and_eq_true, decide_eq_true_eq] at ha
    rw [ha.1, hq] at ha
    exact Bool.false_ne_true ha.2

/-- **What lies up to a bound and what lies beyond it may be sorted apart.** -/
theorem append_at (bound : κ) {low high : List α}
    (hlow : StablySorted key (items.filter fun a => decide (key a ≤ bound)) low)
    (hhigh : StablySorted key (items.filter fun a => decide (bound < key a)) high) :
    StablySorted key items (low ++ high) := by
  refine ⟨List.pairwise_append.mpr ⟨hlow.ascending, hhigh.ascending, ?_⟩, fun k => ?_⟩
  · intro a ha b hb
    have hla := (List.mem_filter.mp ((hlow.mem_iff a).mp ha)).2
    have hgb := (List.mem_filter.mp ((hhigh.mem_iff b).mp hb)).2
    rw [decide_eq_true_eq] at hla hgb
    exact le_trans hla (le_of_lt hgb)
  · rw [List.filter_append, hlow.stable k, hhigh.stable k,
      filter_filter_key key (fun x => decide (x ≤ bound)),
      filter_filter_key key (fun x => decide (bound < x))]
    rcases le_or_gt k bound with hk | hk
    · rw [if_pos (decide_eq_true hk), if_neg (by simpa using hk), List.append_nil]
    · rw [if_neg (by simpa using hk), if_pos (decide_eq_true hk), List.nil_append]

/-- A stable sort is cut in two at every bound. -/
theorem eq_append (h : StablySorted key items sorted) (bound : κ) :
    sorted = (sorted.filter fun a => decide (key a ≤ bound))
      ++ sorted.filter fun a => decide (bound < key a) :=
  h.unique (append_at bound (h.filter _) (h.filter _))

/-- **Lists may be sorted before they are joined and sorted.** -/
theorem of_append {items' joined : List α} (h : StablySorted key items sorted)
    (h' : StablySorted key items' sorted') (hjoined : StablySorted key (sorted ++ sorted') joined) :
    StablySorted key (items ++ items') joined := by
  refine ⟨hjoined.ascending, fun k => ?_⟩
  rw [hjoined.stable k, List.filter_append, List.filter_append, h.stable k, h'.stable k]

end StablySorted

/-! ## §3. Merge sort. -/

section MergeSort

variable {key : α → κ} {le : α → α → Bool} (hle : ∀ a b, le a b = decide (key a ≤ key b))
include hle

theorem le_trans_of_key (a b c : α) (hab : le a b = true) (hbc : le b c = true) :
    le a c = true := by
  rw [hle, decide_eq_true_eq] at *
  exact le_trans hab hbc

theorem le_total_of_key (a b : α) : (le a b || le b a) = true := by
  rw [hle, hle, Bool.or_eq_true, decide_eq_true_eq, decide_eq_true_eq]
  exact le_total _ _

/-- Items of one key are in order as they stand, so a merge sort leaves them among each other
where they are. -/
theorem filter_mergeSort (items : List α) (k : κ) :
    (items.mergeSort le).filter (fun a => decide (key a = k))
      = items.filter (fun a => decide (key a = k)) := by
  have hsame : (items.filter fun a => decide (key a = k)).Pairwise fun a b => le a b = true := by
    refine List.pairwise_of_forall_mem_list fun a ha b hb => ?_
    have ha := (List.mem_filter.mp ha).2
    have hb := (List.mem_filter.mp hb).2
    rw [decide_eq_true_eq] at ha hb
    rw [hle, decide_eq_true_eq, ha, hb]
  -- the items of one key come out of the sort as a sublist, and none of them is lost
  have hsub := (List.sublist_mergeSort (le_trans_of_key hle) (le_total_of_key hle) hsame
    List.filter_sublist).filter fun a => decide (key a = k)
  rw [List.filter_filter] at hsub
  simp only [Bool.and_self] at hsub
  refine (hsub.eq_of_length ?_).symm
  exact ((List.mergeSort_perm items le).filter _).length_eq.symm

/-- **A merge sort by a key is a stable sort.** -/
theorem stablySorted_mergeSort (items : List α) :
    StablySorted key items (items.mergeSort le) := by
  refine ⟨?_, filter_mergeSort hle items⟩
  refine (List.pairwise_mergeSort (le_trans_of_key hle) (le_total_of_key hle) items).imp ?_
  intro a b hab
  rwa [hle, decide_eq_true_eq] at hab

end MergeSort

end JobWatch
