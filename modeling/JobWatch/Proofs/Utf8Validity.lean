/-
  JobWatch.Proofs.Utf8Validity
  ────────────────────────────
  **WHAT READS AS UTF-8 IS UTF-8.**

  The strict reader finds a code point only in the octets that the code point
  is written in, and it finds no surrogate.  So the octets that it reads are
  those that texts without surrogates are written in, and no others:

      lead?_spec        — what a first octet promises
      step_spec         — a step takes the octets of the code point it finds
      read_eq_some_iff  — octets are read exactly when they write a text
-/
import JobWatch.Proofs.Utf8RoundTrip

namespace JobWatch

namespace Utf8

/-! ## §1. Code points by the number of their octets. -/

theorem octet_toNat (b : UInt8) : octet b.toNat = b := UInt8.ofNat_toNat

theorem val_ofNat {n : Nat} (h : n < 0x110000) : (CodePoint.ofNat n).val = n := by
  unfold CodePoint.ofNat
  rw [dif_pos h]

theorem encodeOne_one {n : Nat} (h : n < 0x80) : encodeOne (.ofNat n) = [octet n] := by
  unfold encodeOne
  rw [val_ofNat (by omega)]
  exact if_pos h

theorem encodeOne_two {a k : Nat} (ha : 2 ≤ a ∧ a < 0x20) (hk : k < 0x40) :
    encodeOne (.ofNat (a * 0x40 + k)) = [octet (0xC0 + a), octet (0x80 + k)] := by
  have hhigh : (a * 0x40 + k) / 0x40 = a := by omega
  have hlow : (a * 0x40 + k) % 0x40 = k := by omega
  unfold encodeOne
  rw [val_ofNat (by omega)]
  simp only
  rw [if_neg (by omega), if_pos (by omega), hhigh, hlow]

theorem encodeOne_three {a k l : Nat} (ha : a < 0x10) (hk : k < 0x40) (hl : l < 0x40)
    (hshort : a = 0 → 0x20 ≤ k) :
    encodeOne (.ofNat ((a * 0x40 + k) * 0x40 + l))
      = [octet (0xE0 + a), octet (0x80 + k), octet (0x80 + l)] := by
  have hhigh : ((a * 0x40 + k) * 0x40 + l) / 0x1000 = a := by omega
  have hmiddle : ((a * 0x40 + k) * 0x40 + l) / 0x40 % 0x40 = k := by omega
  have hlow : ((a * 0x40 + k) * 0x40 + l) % 0x40 = l := by omega
  unfold encodeOne
  rw [val_ofNat (by omega)]
  simp only
  rw [if_neg (by omega), if_neg (by omega), if_pos (by omega), hhigh, hmiddle, hlow]

theorem encodeOne_four {a k l m : Nat} (ha : a ≤ 4) (hk : k < 0x40) (hl : l < 0x40)
    (hm : m < 0x40) (hshort : a = 0 → 0x10 ≤ k) (hlast : a = 4 → k < 0x10) :
    encodeOne (.ofNat (((a * 0x40 + k) * 0x40 + l) * 0x40 + m))
      = [octet (0xF0 + a), octet (0x80 + k), octet (0x80 + l), octet (0x80 + m)] := by
  have hhigh : (((a * 0x40 + k) * 0x40 + l) * 0x40 + m) / 0x40000 = a := by omega
  have hsecond : (((a * 0x40 + k) * 0x40 + l) * 0x40 + m) / 0x1000 % 0x40 = k := by omega
  have hthird : (((a * 0x40 + k) * 0x40 + l) * 0x40 + m) / 0x40 % 0x40 = l := by omega
  have hlow : (((a * 0x40 + k) * 0x40 + l) * 0x40 + m) % 0x40 = m := by omega
  unfold encodeOne
  rw [val_ofNat (by omega)]
  simp only
  rw [if_neg (by omega), if_neg (by omega), if_neg (by omega), hhigh, hsecond, hthird, hlow]

theorem isSurrogate_ofNat {n : Nat} (h : n < 0x110000) :
    (CodePoint.ofNat n).isSurrogate = false ↔ n < 0xD800 ∨ 0xDFFF < n := by
  unfold CodePoint.isSurrogate CodePoint.within
  rw [val_ofNat h, Bool.and_eq_false_iff, decide_eq_false_iff_not, decide_eq_false_iff_not]
  omega

/-! ## §2. What the reader demands. -/

/-- A first octet says how many octets follow, and the range of the second shuts out what is
written in fewer octets, the surrogates, and what lies past the last code point. -/
inductive Lead (b : UInt8) : Nat → Nat → Nat → Nat → Prop
  | two {a : Nat} (hb : b = octet (0xC0 + a)) (ha : 2 ≤ a ∧ a < 0x20) : Lead b 1 a 0x80 0xBF
  | three {a lo hi : Nat} (hb : b = octet (0xE0 + a)) (ha : a < 0x10)
      (hrange : 0x80 ≤ lo ∧ hi ≤ 0xBF) (hshort : a = 0 → 0xA0 ≤ lo)
      (hsurrogate : a = 0xD → hi ≤ 0x9F) : Lead b 2 a lo hi
  | four {a lo hi : Nat} (hb : b = octet (0xF0 + a)) (ha : a ≤ 4)
      (hrange : 0x80 ≤ lo ∧ hi ≤ 0xBF) (hshort : a = 0 → 0x90 ≤ lo) (hlast : a = 4 → hi ≤ 0x8F) :
      Lead b 3 a lo hi

theorem within_iff (b : UInt8) (lo hi : Nat) :
    within b lo hi = true ↔ lo ≤ b.toNat ∧ b.toNat ≤ hi := by
  unfold within
  rw [Bool.and_eq_true, decide_eq_true_eq, decide_eq_true_eq]

theorem eq_octet {b : UInt8} {n : Nat} (h : b.toNat = n) : b = octet n := by
  rw [← h, octet_toNat]

theorem row_inj {due acc lo hi due' acc' lo' hi' : Nat}
    (h : some (due, acc, lo, hi) = some (due', acc', lo', hi')) :
    due = due' ∧ acc = acc' ∧ lo = lo' ∧ hi = hi' := by
  simpa using h

/-- **What a first octet promises.** -/
theorem lead?_spec {b : UInt8} {due acc lo hi : Nat}
    (h : lead? false b = some (due, acc, lo, hi)) : Lead b due acc lo hi := by
  unfold lead? at h
  simp only [within_iff] at h
  -- one case for each row of the table
  split at h
  next hb =>
    obtain ⟨rfl, rfl, rfl, rfl⟩ := row_inj h
    exact Lead.two (eq_octet (by omega)) (by omega)
  split at h
  next hb =>
    obtain ⟨rfl, rfl, rfl, rfl⟩ := row_inj h
    exact Lead.three (eq_octet hb) (by omega) (by omega) (by omega) (by omega)
  split at h
  next hb =>
    rw [if_neg Bool.false_ne_true] at h
    obtain ⟨rfl, rfl, rfl, rfl⟩ := row_inj h
    exact Lead.three (eq_octet hb) (by omega) (by omega) (by omega) (by omega)
  split at h
  next hb =>
    obtain ⟨rfl, rfl, rfl, rfl⟩ := row_inj h
    exact Lead.three (eq_octet (by omega)) (by omega) (by omega) (by omega) (by omega)
  split at h
  next hb =>
    obtain ⟨rfl, rfl, rfl, rfl⟩ := row_inj h
    exact Lead.four (eq_octet hb) (by omega) (by omega) (by omega) (by omega)
  split at h
  next hb =>
    obtain ⟨rfl, rfl, rfl, rfl⟩ := row_inj h
    exact Lead.four (eq_octet (by omega)) (by omega) (by omega) (by omega) (by omega)
  split at h
  next hb =>
    obtain ⟨rfl, rfl, rfl, rfl⟩ := row_inj h
    exact Lead.four (eq_octet hb) (by omega) (by omega) (by omega) (by omega)
  next => exact absurd h (by simp)

/-- A code point is found when nothing more is due. -/
theorem continuation_zero {acc lo hi : Nat} {rest left : Bytes} {c : CodePoint}
    (h : continuation 0 acc lo hi rest = (.found c, left)) : c = .ofNat acc ∧ left = rest := by
  rw [continuation, Prod.mk.injEq, Step.found.injEq] at h
  exact ⟨h.1.symm, h.2.symm⟩

/-- While something is due, a continuation octet in its range has to come. -/
theorem continuation_succ {due acc lo hi : Nat} {rest left : Bytes} {c : CodePoint}
    (hrange : 0x80 ≤ lo ∧ hi ≤ 0xBF)
    (h : continuation (due + 1) acc lo hi rest = (.found c, left)) :
    ∃ k more, rest = octet (0x80 + k) :: more ∧ k < 0x40 ∧ lo ≤ 0x80 + k ∧ 0x80 + k ≤ hi
      ∧ continuation due (acc * 0x40 + k) 0x80 0xBF more = (.found c, left) := by
  cases rest with
  | nil => exact absurd h (by simp [continuation])
  | cons b more =>
    rw [continuation] at h
    split at h
    next hb =>
      rw [within_iff] at hb
      have hlow : low6 b = b.toNat - 0x80 := by
        unfold low6
        omega
      refine ⟨b.toNat - 0x80, more, ?_, by omega, by omega, by omega, ?_⟩
      · rw [← eq_octet (show b.toNat = 0x80 + (b.toNat - 0x80) by omega)]
      · rw [← hlow]
        exact h
    next => exact absurd h (by simp)

/-! ## §3. Reading. -/

/-- **A step takes the octets of the code point that it finds**, which is no surrogate. -/
theorem step_spec {b : UInt8} {rest left : Bytes} {c : CodePoint}
    (h : step false b rest = (.found c, left)) :
    b :: rest = encodeOne c ++ left ∧ c.isSurrogate = false := by
  unfold step at h
  split at h
  next hb =>
    rw [Prod.mk.injEq, Step.found.injEq] at h
    obtain ⟨rfl, rfl⟩ := h
    refine ⟨?_, (isSurrogate_ofNat (by omega)).mpr (by omega)⟩
    rw [encodeOne_one hb, octet_toNat]
    rfl
  split at h
  next => exact absurd h (by simp)
  next due acc lo hi hlead =>
    cases lead?_spec hlead with
    | two hb ha =>
      obtain ⟨k, more, rfl, hk, -, -, hrest⟩ := continuation_succ (by omega) h
      obtain ⟨rfl, rfl⟩ := continuation_zero hrest
      refine ⟨?_, (isSurrogate_ofNat (by omega)).mpr (by omega)⟩
      rw [encodeOne_two ha hk, hb]
      rfl
    | three hb ha hrange hshort hsurrogate =>
      obtain ⟨k, more, rfl, hk, hlo, hhi, hrest⟩ := continuation_succ hrange h
      obtain ⟨l, more, rfl, hl, -, -, hrest⟩ := continuation_succ (by omega) hrest
      obtain ⟨rfl, rfl⟩ := continuation_zero hrest
      refine ⟨?_, (isSurrogate_ofNat (by omega)).mpr (by omega)⟩
      rw [encodeOne_three ha hk hl (by omega), hb]
      rfl
    | four hb ha hrange hshort hlast =>
      obtain ⟨k, more, rfl, hk, hlo, hhi, hrest⟩ := continuation_succ hrange h
      obtain ⟨l, more, rfl, hl, -, -, hrest⟩ := continuation_succ (by omega) hrest
      obtain ⟨m, more, rfl, hm, -, -, hrest⟩ := continuation_succ (by omega) hrest
      obtain ⟨rfl, rfl⟩ := continuation_zero hrest
      refine ⟨?_, (isSurrogate_ofNat (by omega)).mpr (by omega)⟩
      rw [encodeOne_four ha hk hl hm (by omega) (by omega), hb]
      rfl

/-- What all steps find together is written in the octets that they were given. -/
theorem encode_of_scan {fuel : Nat} {bytes : Bytes} {t : Text} (hfuel : bytes.length ≤ fuel)
    (h : (scan false fuel bytes).mapM id = some t) : encode t = bytes ∧ t.isScalar = true := by
  induction fuel generalizing bytes t with
  | zero =>
    obtain rfl := List.length_eq_zero_iff.mp (Nat.le_zero.mp hfuel)
    obtain rfl := Option.some.inj h
    exact ⟨rfl, rfl⟩
  | succ fuel ih =>
    cases bytes with
    | nil =>
      obtain rfl := Option.some.inj h
      exact ⟨rfl, rfl⟩
    | cons b rest =>
      have hshort := length_step_lt false b rest
      rw [scan] at h
      split at h
      next c left hstep =>
        rw [hstep] at hshort
        simp only [List.length_cons] at hshort hfuel
        rw [List.mapM_cons] at h
        simp only [id_eq, Option.bind_eq_bind, Option.bind_some, Option.bind_eq_some_iff,
          Option.pure_def, Option.some.injEq] at h
        obtain ⟨more, hmore, rfl⟩ := h
        obtain ⟨htext, hscalar⟩ := ih (by omega) hmore
        obtain ⟨hfront, hc⟩ := step_spec hstep
        refine ⟨?_, ?_⟩
        · rw [hfront, ← htext]
          exact List.flatMap_cons
        · show (!c.isSurrogate && Text.isScalar more) = true
          rw [hc, hscalar]
          rfl
      next left hstep =>
        rw [List.mapM_cons] at h
        exact absurd h (by simp)

/-- **Octets are read exactly when they write a text** without surrogates, and as that text. -/
theorem read_eq_some_iff (bytes : Bytes) (t : Text) :
    read bytes = some t ↔ t.isScalar = true ∧ encode t = bytes := by
  constructor
  · intro h
    obtain ⟨htext, hscalar⟩ := encode_of_scan (Nat.le_refl _) h
    exact ⟨hscalar, htext⟩
  · rintro ⟨hscalar, rfl⟩
    exact read_encode hscalar

end Utf8

end JobWatch
