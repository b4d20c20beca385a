/-
  JobWatch.Proofs.DigitOrder
  ──────────────────────────
  **LINES OF DIGITS, COMPARED PLACE BY PLACE.**

  Two lines of one length are compared at the first place where they differ.
  For digits that is the order of the numbers that they write, and it makes
  no difference whether a line is compared digit by digit or block by block,
  as long as the blocks are of one length:

      append_lt_append_iff   — what stands in front decides first
      number_lt_number_iff   — digits are ordered as the numbers they write
      number_eq_number_iff   — and are the same if those are
      flatten_lt_flatten_iff — so are lines of blocks
      fixedDigits_number     — a number of that many digits is written back
-/
import Mathlib.Data.List.Induction
import Mathlib.Data.List.Lex
import Mathlib.Order.Fin.Basic
import JobWatch.Number.Decimal

namespace JobWatch

/-! ## §1. Lines of one length. -/

/-- **What stands in front decides first**, and what stands behind it only if that is the same. -/
theorem append_lt_append_iff {α : Type} [LinearOrder α] {as bs : List α} (cs ds : List α)
    (h : as.length = bs.length) : as ++ cs < bs ++ ds ↔ as < bs ∨ as = bs ∧ cs < ds := by
  induction as generalizing bs with
  | nil =>
    obtain rfl := List.length_eq_zero_iff.mp h.symm
    simp
  | cons a as ih =>
    cases bs with
    | nil => exact absurd h (by simp)
    | cons b bs =>
      have htail := ih (Nat.succ.inj h)
      rw [List.cons_append, List.cons_append, List.cons_lt_cons_iff, htail,
        List.cons_lt_cons_iff, List.cons.injEq]
      tauto

/-! ## §2. Digits. -/

/-- Digits in front of others count for as many tens as there are digits behind them. -/
theorem number_append (ds es : List Digit) :
    number (ds ++ es) = number ds * 10 ^ es.length + number es := by
  induction es using List.reverseRecOn with
  | nil =>
    show number (ds ++ []) = number ds * 1 + 0
    rw [List.append_nil, Nat.mul_one, Nat.add_zero]
  | append_singleton es e ih =>
    have hpow : number ds * 10 ^ (es.length + 1) = 10 * (number ds * 10 ^ es.length) := by
      rw [Nat.pow_succ, ← Nat.mul_assoc, Nat.mul_comm]
    rw [← List.append_assoc, number_append_singleton, ih, number_append_singleton,
      List.length_append, List.length_singleton, hpow]
    omega

theorem number_cons (d : Digit) (ds : List Digit) :
    number (d :: ds) = d.val * 10 ^ ds.length + number ds := by
  rw [← List.singleton_append, number_append]
  show (10 * 0 + d.val) * _ + _ = _
  rw [Nat.mul_zero, Nat.zero_add]

theorem number_append_zeros (ds : List Digit) (k : Nat) :
    number (ds ++ List.replicate k 0) = number ds * 10 ^ k := by
  induction k with
  | zero => simp
  | succ k ih =>
    rw [List.replicate_succ', ← List.append_assoc, number_append_singleton, ih, Nat.pow_succ]
    show 10 * (number ds * 10 ^ k) + 0 = number ds * (10 ^ k * 10)
    rw [Nat.add_zero, Nat.mul_left_comm, Nat.mul_comm 10]

/-- **Digits are ordered as the numbers that they write.** -/
theorem number_lt_number_iff {ds es : List Digit} (h : ds.length = es.length) :
    number ds < number es ↔ ds < es := by
  induction ds generalizing es with
  | nil =>
    obtain rfl := List.length_eq_zero_iff.mp h.symm
    simp
  | cons d ds ih =>
    cases es with
    | nil => exact absurd h (by simp)
    | cons e es =>
      have hlength : ds.length = es.length := Nat.succ.inj h
      have hd := number_lt ds
      have he := number_lt es
      rw [List.cons_lt_cons_iff, ← ih hlength, number_cons, number_cons, Fin.lt_def, Fin.ext_iff]
      rw [hlength] at hd ⊢
      -- a larger leading digit is worth more than all that may stand behind the smaller one
      have hstep {m n : Nat} (hmn : m < n) :
          m * 10 ^ es.length + 10 ^ es.length ≤ n * 10 ^ es.length := by
        rw [← Nat.succ_mul]
        exact Nat.mul_le_mul_right _ hmn
      rcases Nat.lt_trichotomy d.val e.val with hlt | heq | hgt
      · have hle := hstep hlt
        omega
      · rw [heq]
        omega
      · have hle := hstep hgt
        omega

/-- Digits are the same if there are as many of them and they write the same number. -/
theorem number_eq_number_iff {ds es : List Digit} (h : ds.length = es.length) :
    number ds = number es ↔ ds = es := by
  constructor
  · intro hnumber
    rcases lt_trichotomy ds es with hlt | heq | hgt
    · have hless := (number_lt_number_iff h).mpr hlt
      omega
    · exact heq
    · have hless := (number_lt_number_iff h.symm).mpr hgt
      omega
  · intro heq
    rw [heq]

/-- **A number of that many digits is written back.** -/
theorem fixedDigits_number {w : Nat} {ds : List Digit} (h : ds.length = w) :
    fixedDigits w (number ds) = ds := by
  rw [← number_eq_number_iff ((length_fixedDigits _ _).trans h.symm), number_fixedDigits, ← h]
  exact Nat.mod_eq_of_lt (number_lt ds)

/-! ## §3. Blocks of digits. -/

/-- The blocks are as many, and each is as long as its counterpart. -/
abbrev SameWidths (bs cs : List (List Digit)) : Prop :=
  List.Forall₂ (fun b c => b.length = c.length) bs cs

/-- **Lines of blocks** are ordered as the numbers that the blocks write. -/
theorem flatten_lt_flatten_iff {bs cs : List (List Digit)} (h : SameWidths bs cs) :
    bs.flatten < cs.flatten ↔ bs.map number < cs.map number := by
  induction h with
  | nil => simp
  | cons hhead _ ih =>
    rw [List.flatten_cons, List.flatten_cons, append_lt_append_iff _ _ hhead, ih, List.map_cons,
      List.map_cons, List.cons_lt_cons_iff, number_lt_number_iff hhead,
      number_eq_number_iff hhead]

/-- Lines of blocks are the same if the blocks write the same numbers. -/
theorem flatten_eq_flatten_iff {bs cs : List (List Digit)} (h : SameWidths bs cs) :
    bs.flatten = cs.flatten ↔ bs.map number = cs.map number := by
  induction h with
  | nil => simp
  | cons hhead _ ih =>
    rw [List.flatten_cons, List.flatten_cons, List.map_cons, List.map_cons, List.cons.injEq, ← ih,
      number_eq_number_iff hhead]
    constructor
    · intro happend
      exact List.append_inj happend hhead
    · rintro ⟨hsame, hrest⟩
      rw [hsame, hrest]

end JobWatch
