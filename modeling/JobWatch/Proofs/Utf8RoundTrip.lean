/-
  JobWatch.Proofs.Utf8RoundTrip
  ─────────────────────────────
  **WHAT IS WRITTEN IN UTF-8 READS BACK.**

  A code point is written in one to four octets.  The first of them says how
  many follow and which range the second one has, and the octets of the code
  point always lie in those ranges; so one step of reading finds the code
  point and leaves what stands behind its octets.

      lead?_two / lead?_three / lead?_four
                       — what the first octet says
      step_encodeOne   — one step reads one code point
      pieces_encode    — all steps together read the text
      read_encode      — the strict reader does, if there are no surrogates
      readOctets_encode
                       — an object in UTF-8 is read as its text
-/
import JobWatch.Json.Octets

namespace JobWatch

namespace Utf8

/-! ## §1. Octets. -/

theorem toNat_octet {n : Nat} (h : n < 256) : (octet n).toNat = n := by
  unfold octet
  rw [UInt8.toNat_ofNat']
  exact Nat.mod_eq_of_lt h

theorem within_octet {n lo hi : Nat} (h : n < 256) :
    within (octet n) lo hi = true ↔ lo ≤ n ∧ n ≤ hi := by
  unfold within
  rw [toNat_octet h, Bool.and_eq_true, decide_eq_true_eq, decide_eq_true_eq]

/-- A continuation octet in its range adds its six bits. -/
theorem continuation_octet (due acc : Nat) {k lo hi : Nat} (hk : k < 0x40) (hlo : lo ≤ 0x80 + k)
    (hhi : 0x80 + k ≤ hi) (rest : Bytes) :
    continuation (due + 1) acc lo hi (octet (0x80 + k) :: rest)
      = continuation due (acc * 0x40 + k) 0x80 0xBF rest := by
  have hlow : low6 (octet (0x80 + k)) = k := by
    unfold low6
    rw [toNat_octet (by omega)]
    omega
  rw [continuation, if_pos ((within_octet (by omega)).mpr ⟨hlo, hhi⟩), hlow]

/-- Behind the first two octets any continuation octet may follow. -/
theorem continuation_octet_mod (due acc n : Nat) (rest : Bytes) :
    continuation (due + 1) acc 0x80 0xBF (octet (0x80 + n % 0x40) :: rest)
      = continuation due (acc * 0x40 + n % 0x40) 0x80 0xBF rest :=
  continuation_octet due acc (by omega) (by omega) (by omega) rest

/-! ## §2. The first octet. -/

theorem lead?_two (surrogates : Bool) {n : Nat} (hlo : 0x80 ≤ n) (hhi : n < 0x800) :
    lead? surrogates (octet (0xC0 + n / 0x40)) = some (1, n / 0x40, 0x80, 0xBF) := by
  have h := toNat_octet (show 0xC0 + n / 0x40 < 256 by omega)
  unfold lead?
  rw [if_pos ((within_octet (by omega)).mpr ⟨by omega, by omega⟩), h, Nat.add_sub_cancel_left]

/-- The second of three octets lies in the range that the first one says, except that of a
surrogate in a strict reading. -/
theorem lead?_three {surrogates : Bool} {n : Nat} (hlo : 0x800 ≤ n) (hhi : n < 0x10000)
    (hs : surrogates = true ∨ n < 0xD800 ∨ 0xDFFF < n) :
    ∃ lo hi, lead? surrogates (octet (0xE0 + n / 0x1000)) = some (2, n / 0x1000, lo, hi)
      ∧ lo ≤ 0x80 + n / 0x40 % 0x40 ∧ 0x80 + n / 0x40 % 0x40 ≤ hi := by
  have hb : 0xE0 + n / 0x1000 < 256 := by omega
  have h := toNat_octet hb
  unfold lead?
  rw [if_neg (by rw [within_octet hb]; omega), h]
  by_cases hfirst : n / 0x1000 = 0
  · refine ⟨0xA0, 0xBF, ?_, by omega, by omega⟩
    rw [hfirst, if_pos rfl]
  rw [if_neg (by omega)]
  by_cases hsurrogate : n / 0x1000 = 0xD
  · refine ⟨0x80, if surrogates then 0xBF else 0x9F, ?_, by omega, ?_⟩
    · rw [hsurrogate, if_pos rfl]
    · cases surrogates with
      | true =>
        rw [if_pos rfl]
        omega
      | false =>
        rw [if_neg Bool.false_ne_true]
        simp only [Bool.false_eq_true, false_or] at hs
        omega
  · refine ⟨0x80, 0xBF, ?_, by omega, by omega⟩
    rw [if_neg (by omega), if_pos ((within_octet hb).mpr ⟨by omega, by omega⟩),
      Nat.add_sub_cancel_left]

theorem lead?_four (surrogates : Bool) {n : Nat} (hlo : 0x10000 ≤ n) (hhi : n < 0x110000) :
    ∃ lo hi, lead? surrogates (octet (0xF0 + n / 0x40000)) = some (3, n / 0x40000, lo, hi)
      ∧ lo ≤ 0x80 + n / 0x1000 % 0x40 ∧ 0x80 + n / 0x1000 % 0x40 ≤ hi := by
  have hb : 0xF0 + n / 0x40000 < 256 := by omega
  have h := toNat_octet hb
  unfold lead?
  rw [if_neg (by rw [within_octet hb]; omega), h, if_neg (by omega), if_neg (by omega),
    if_neg (by rw [within_octet hb]; omega)]
  by_cases hfirst : n / 0x40000 = 0
  · refine ⟨0x90, 0xBF, ?_, by omega, by omega⟩
    rw [hfirst, if_pos rfl]
  rw [if_neg (by omega)]
  by_cases hlast : n / 0x40000 = 4
  · refine ⟨0x80, 0x8F, ?_, by omega, by omega⟩
    rw [hlast, if_neg (by rw [within_octet (by omega)]; omega), if_pos rfl]
  · refine ⟨0x80, 0xBF, ?_, by omega, by omega⟩
    rw [if_pos ((within_octet hb).mpr ⟨by omega, by omega⟩), Nat.add_sub_cancel_left]

/-! ## §3. Reading. -/

theorem ofNat_val (c : CodePoint) : CodePoint.ofNat c.val = c := by
  unfold CodePoint.ofNat
  rw [dif_pos c.isLt]

/-- The reader takes the code point: it is no surrogate, or surrogates may pass. -/
def Takes (surrogates : Bool) (c : CodePoint) : Prop := surrogates = true ∨ c.isSurrogate = false

/-- **One step reads one code point** and leaves what stands behind its octets. -/
theorem step_encodeOne {surrogates : Bool} {c : CodePoint} (h : Takes surrogates c)
    (rest : Bytes) :
    ∃ b tail, encodeOne c ++ rest = b :: tail ∧ step surrogates b tail = (.found c, rest) := by
  have hlt := c.isLt
  -- the bits that the octets carry are put together again
  have hfound {n : Nat} (hn : n = c.val) :
      (continuation 0 n 0x80 0xBF rest) = (.found c, rest) := by
    rw [continuation, hn, ofNat_val]
  unfold encodeOne
  simp only
  by_cases h1 : c.val < 0x80
  · refine ⟨octet c.val, rest, by rw [if_pos h1]; rfl, ?_⟩
    unfold step
    rw [toNat_octet (by omega), if_pos h1, ofNat_val]
  rw [if_neg h1]
  by_cases h2 : c.val < 0x800
  · rw [if_pos h2]
    refine ⟨_, _, rfl, ?_⟩
    have hlead := lead?_two surrogates (show 0x80 ≤ c.val by omega) h2
    unfold step
    rw [toNat_octet (by omega), if_neg (by omega), hlead]
    show continuation 1 _ _ _ (octet (0x80 + c.val % 0x40) :: rest) = _
    rw [continuation_octet_mod]
    exact hfound (by omega)
  rw [if_neg h2]
  by_cases h3 : c.val < 0x10000
  · rw [if_pos h3]
    refine ⟨_, _, rfl, ?_⟩
    have hs : surrogates = true ∨ c.val < 0xD800 ∨ 0xDFFF < c.val := by
      refine h.imp_right fun hc => ?_
      simp only [CodePoint.isSurrogate, CodePoint.within, Bool.and_eq_false_iff,
        decide_eq_false_iff_not] at hc
      omega
    obtain ⟨lo, hi, hlead, hlo, hhi⟩ := lead?_three (show 0x800 ≤ c.val by omega) h3 hs
    unfold step
    rw [toNat_octet (by omega), if_neg (by omega), hlead]
    show continuation 2 _ lo hi
      (octet (0x80 + c.val / 0x40 % 0x40) :: octet (0x80 + c.val % 0x40) :: rest) = _
    rw [continuation_octet 1 _ (by omega) hlo hhi, continuation_octet_mod]
    exact hfound (by omega)
  · rw [if_neg h3]
    refine ⟨_, _, rfl, ?_⟩
    obtain ⟨lo, hi, hlead, hlo, hhi⟩ := lead?_four surrogates (show 0x10000 ≤ c.val by omega) hlt
    unfold step
    rw [toNat_octet (by omega), if_neg (by omega), hlead]
    show continuation 3 _ lo hi (octet (0x80 + c.val / 0x1000 % 0x40)
      :: octet (0x80 + c.val / 0x40 % 0x40) :: octet (0x80 + c.val % 0x40) :: rest) = _
    rw [continuation_octet 2 _ (by omega) hlo hhi, continuation_octet_mod, continuation_octet_mod]
    exact hfound (by omega)

/-- All steps together read the text, given as many steps as there are octets. -/
theorem scan_encode {surrogates : Bool} {t : Text} (h : ∀ c ∈ t, Takes surrogates c) {fuel : Nat}
    (hfuel : (encode t).length ≤ fuel) : scan surrogates fuel (encode t) = t.map some := by
  induction t generalizing fuel with
  | nil => cases fuel <;> rfl
  | cons c t ih =>
    have htext : encode (c :: t) = encodeOne c ++ encode t := List.flatMap_cons
    obtain ⟨b, tail, hfront, hstep⟩ := step_encodeOne (h c List.mem_cons_self) (encode t)
    rw [htext, hfront] at hfuel ⊢
    have hshort := length_step_lt surrogates b tail
    rw [hstep] at hshort
    obtain ⟨fuel, rfl⟩ : ∃ n, fuel = n + 1 := by
      rw [List.length_cons] at hfuel
      exact ⟨fuel - 1, by omega⟩
    rw [scan, hstep]
    simp only
    rw [ih (fun d hd => h d (List.mem_cons_of_mem c hd))]
    · rfl
    · simp only [List.length_cons] at hshort hfuel
      omega

theorem pieces_encode {surrogates : Bool} {t : Text} (h : ∀ c ∈ t, Takes surrogates c) :
    pieces surrogates (encode t) = t.map some := scan_encode h (Nat.le_refl _)

theorem mapM_id_map_some (t : Text) : (t.map some).mapM id = some t := by
  induction t with
  | nil => rfl
  | cons c t ih =>
    rw [List.map_cons, List.mapM_cons, ih]
    rfl

/-- **A text without surrogates reads back.** -/
theorem read_encode {t : Text} (h : t.isScalar = true) : read (encode t) = some t := by
  have htakes : ∀ c ∈ t, Takes false c := by
    intro c hc
    have hscalar := List.all_eq_true.mp h c hc
    exact Or.inr (by simpa using hscalar)
  unfold read
  rw [pieces_encode htakes, mapM_id_map_some]

/-- Where surrogates may pass, every text reads back. -/
theorem readPassing_encode (t : Text) : readPassing (encode t) = some t := by
  unfold readPassing
  rw [pieces_encode fun _ _ => Or.inl rfl, mapM_id_map_some]

end Utf8

namespace Json

/-! ## §4. Bodies. -/

/-- A body that begins as an object with fields shows no other encoding than UTF-8. -/
theorem decode?_object (rest : Bytes) :
    decode? (0x7B :: 0x22 :: rest) = Utf8.readPassing (0x7B :: 0x22 :: rest) := by
  -- up to four octets decide
  cases rest with
  | nil => rfl
  | cons c rest =>
    cases rest with
    | nil => rfl
    | cons d rest => rfl

/-- **An object in UTF-8 is read as its text.** -/
theorem readOctets_encode {t : Text} (h : t.take 2 = Text.ofString "\x7b\"")
    (nesting : Nat := usualNesting) : readOctets (Utf8.encode t) nesting = read t nesting := by
  have hfront : Utf8.encode t = 0x7B :: 0x22 :: Utf8.encode (t.drop 2) := by
    have hsplit : Utf8.encode t = Utf8.encode (t.take 2) ++ Utf8.encode (t.drop 2) := by
      unfold Utf8.encode
      rw [← List.flatMap_append, List.take_append_drop]
    rw [hsplit, h]
    rfl
  have htext := Utf8.readPassing_encode t
  unfold readOctets
  rw [hfront] at htext ⊢
  rw [decode?_object, htext]

end Json

end JobWatch
