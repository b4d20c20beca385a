/-
  JobWatch.Proofs.PercentRoundTrip
  ────────────────────────────────
  **ENCODED TEXTS READ BACK, AND STAND AS THEY ARE IN AN ADDRESS.**

  An encoded text has no characters but the unreserved ones and `%`, a form
  value `+` besides.  So nothing in it is taken for a mark of the address or
  of the query, nothing in it needs escaping again, and decoding finds the
  octets of the text:

      octets?_encode   — the octets of a segment are those of its text
      decode_encode    — a segment decodes to its text
      unform_form      — a form value decodes to its text
      quote_eq_self    — a text that needs no escaping is not escaped
-/
import JobWatch.Proofs.Utf8RoundTrip
import JobWatch.Uri.Component

namespace JobWatch

namespace Percent

/-! ## §1. Octets. -/

theorem hexValue?_hexDigit {n : Nat} (h : n < 16) : (hexDigit n).hexValue? = some n := by
  have hall : ∀ n : Fin 16, (hexDigit n.val).hexValue? = some n.val := by decide
  exact hall ⟨n, h⟩

/-- **An escaped octet reads back.** -/
theorem octets?_escape (b : UInt8) (rest : Text) :
    octets? (escape b ++ rest) = (octets? rest).map (b :: ·) := by
  have hb := b.toNat_lt
  have hhigh := hexValue?_hexDigit (show b.toNat / 16 < 16 by omega)
  have hlow := hexValue?_hexDigit (show b.toNat % 16 < 16 by omega)
  have hoctet : UInt8.ofNat (16 * (b.toNat / 16) + b.toNat % 16) = b := by
    rw [Nat.div_add_mod, UInt8.ofNat_toNat]
  show octets? (CodePoint.ofChar '%' :: hexDigit (b.toNat / 16) :: hexDigit (b.toNat % 16) :: rest)
    = _
  rw [octets?, if_pos rfl]
  simp only [hhigh, hlow, hoctet]

theorem octets?_flatMap_escape (bytes : Bytes) (rest : Text) :
    octets? (bytes.flatMap escape ++ rest) = (octets? rest).map (bytes ++ ·) := by
  induction bytes with
  | nil =>
    show octets? rest = _
    cases octets? rest <;> rfl
  | cons b bytes ih =>
    rw [List.flatMap_cons, List.append_assoc, octets?_escape, ih, Option.map_map]
    rfl

/-- A character that is no `%` stands for its own octets. -/
theorem octets?_cons {c : CodePoint} (h : c ≠ CodePoint.ofChar '%') (rest : Text) :
    octets? (c :: rest) = (octets? rest).map (Utf8.encodeOne c ++ ·) := by
  rw [octets?.eq_def (c :: rest)]
  exact if_neg h

theorem ne_of_isUnreserved {c : CodePoint} (h : isUnreserved c = true) {m : Char}
    (hm : isUnreserved (CodePoint.ofChar m) = false) : c ≠ CodePoint.ofChar m := by
  rintro rfl
  rw [h] at hm
  exact absurd hm (by simp)

/-! ## §2. Segments. -/

theorem octets?_encodeOne (c : CodePoint) (rest : Text) :
    octets? (encodeOne c ++ rest) = (octets? rest).map (Utf8.encodeOne c ++ ·) := by
  unfold encodeOne
  by_cases h : isUnreserved c = true
  · rw [if_pos h]
    exact octets?_cons (ne_of_isUnreserved h (by decide)) rest
  · rw [if_neg h]
    exact octets?_flatMap_escape _ rest

/-- **The octets of a segment** are those of the text that it encodes. -/
theorem octets?_encode (t : Text) : octets? (encode t) = some (Utf8.encode t) := by
  induction t with
  | nil => rfl
  | cons c t ih =>
    show octets? (encodeOne c ++ encode t) = _
    rw [octets?_encodeOne, ih]
    rfl

/-- **A segment decodes to its text.** -/
theorem decode_encode {t : Text} (h : t.isScalar = true) : decode (encode t) = some t := by
  unfold decode
  rw [octets?_encode]
  exact Utf8.read_encode h

/-! ## §3. The characters of an encoding. -/

/-- A character that an encoded text may have. -/
def isEncodingMark (c : CodePoint) : Bool := isUnreserved c || c == CodePoint.ofChar '%'

theorem isUnreserved_hexDigit {n : Nat} (h : n < 16) : isUnreserved (hexDigit n) = true := by
  have hall : ∀ n : Fin 16, isUnreserved (hexDigit n.val) = true := by decide
  exact hall ⟨n, h⟩

theorem isEncodingMark_of_isUnreserved {c : CodePoint} (h : isUnreserved c = true) :
    isEncodingMark c = true := by
  unfold isEncodingMark
  rw [h, Bool.true_or]

theorem isEncodingMark_of_mem_escapeOne {c d : CodePoint} (h : d ∈ escapeOne c) :
    isEncodingMark d = true := by
  obtain ⟨b, -, hd⟩ := List.mem_flatMap.mp h
  have hb := b.toNat_lt
  simp only [escape, List.mem_cons, List.not_mem_nil, or_false] at hd
  rcases hd with rfl | rfl | rfl
  · decide
  · exact isEncodingMark_of_isUnreserved (isUnreserved_hexDigit (by omega))
  · exact isEncodingMark_of_isUnreserved (isUnreserved_hexDigit (by omega))

theorem isEncodingMark_of_mem_encodeOne {c d : CodePoint} (h : d ∈ encodeOne c) :
    isEncodingMark d = true := by
  unfold encodeOne at h
  split at h
  next hc =>
    rw [List.mem_singleton.mp h]
    exact isEncodingMark_of_isUnreserved hc
  next => exact isEncodingMark_of_mem_escapeOne h

/-- **A segment has no characters but the unreserved ones and `%`.** -/
theorem isEncodingMark_of_mem_encode {t : Text} {d : CodePoint} (h : d ∈ encode t) :
    isEncodingMark d = true := by
  obtain ⟨c, -, hd⟩ := List.mem_flatMap.mp h
  exact isEncodingMark_of_mem_encodeOne hd

/-- A form value may have `+` besides. -/
theorem mem_form {t : Text} {d : CodePoint} (h : d ∈ form t) :
    isEncodingMark d = true ∨ d = CodePoint.ofChar '+' := by
  obtain ⟨c, -, hd⟩ := List.mem_flatMap.mp h
  unfold formOne at hd
  split at hd
  next => exact Or.inr (List.mem_singleton.mp hd)
  next => exact Or.inl (isEncodingMark_of_mem_encodeOne hd)

theorem ne_of_mem_form {t : Text} {d : CodePoint} (h : d ∈ form t) {m : Char}
    (hm : isEncodingMark (CodePoint.ofChar m) = false) (hplus : m ≠ '+') :
    d ≠ CodePoint.ofChar m := by
  rintro rfl
  rcases mem_form h with h | h
  · rw [h] at hm
    exact absurd hm (by simp)
  · refine hplus (Char.ext (UInt32.toNat_inj.mp ?_))
    exact congrArg CodePoint.val h

/-! ## §4. Form values. -/

/-- A space in the place of a plus sign. -/
def spaced (c : CodePoint) : CodePoint :=
  if c = CodePoint.ofChar '+' then CodePoint.ofNat 0x20 else c

theorem unform_eq (t : Text) : unform t = decode (t.map spaced) := rfl

theorem map_spaced_encodeOne (c : CodePoint) : (encodeOne c).map spaced = encodeOne c := by
  refine (List.map_congr_left fun d hd => ?_).trans (List.map_id _)
  unfold spaced
  rw [if_neg]
  · rfl
  · rintro rfl
    have hmark := isEncodingMark_of_mem_encodeOne hd
    exact absurd hmark (by decide)

/-- A code point of a form value, read with spaces for its plus signs, has its own octets. -/
theorem octets?_formOne (c : CodePoint) (rest : Text) :
    octets? ((formOne c).map spaced ++ rest) = (octets? rest).map (Utf8.encodeOne c ++ ·) := by
  unfold formOne
  by_cases h : c.val = 0x20
  · obtain rfl : c = CodePoint.ofNat 0x20 := by
      rw [← Utf8.ofNat_val c, h]
    rw [if_pos h]
    exact octets?_cons (by decide) rest
  · rw [if_neg h, map_spaced_encodeOne]
    exact octets?_encodeOne c rest

/-- **A form value decodes to its text.** -/
theorem unform_form {t : Text} (h : t.isScalar = true) : unform (form t) = some t := by
  have hoctets : ∀ t : Text, octets? ((form t).map spaced) = some (Utf8.encode t) := by
    intro t
    induction t with
    | nil => rfl
    | cons c t ih =>
      show octets? ((formOne c ++ form t).map spaced) = _
      rw [List.map_append, octets?_formOne, ih]
      rfl
  rw [unform_eq, decode, hoctets]
  exact Utf8.read_encode h

/-! ## §5. Texts that need no escaping. -/

/-- A component keeps the unreserved characters when none of them is barred from it. -/
theorem keeps_of_isUnreserved {barred : List Nat}
    (hb : ∀ n ∈ barred, isUnreserved (CodePoint.ofNat n) = false) {c : CodePoint}
    (h : isUnreserved c = true) : keeps barred c = true := by
  have hfree : c.val ∉ barred := by
    intro hmem
    have hbarred := hb c.val hmem
    rw [Utf8.ofNat_val, h] at hbarred
    exact absurd hbarred (by simp)
  have hvisible : c.within 0x21 0x7E = true := by
    simp only [isUnreserved, CodePoint.isLetter, CodePoint.isAsciiDigit, CodePoint.within,
      Bool.or_eq_true, Bool.and_eq_true, decide_eq_true_eq, beq_iff_eq] at h ⊢
    omega
  unfold keeps
  rw [hvisible, Bool.true_and, Bool.not_eq_true', List.contains_eq_mem, decide_eq_false hfree]

/-- Every `%` opens an escape, and every other character is safe. -/
inductive Escaped (safe : CodePoint → Bool) : Text → Prop
  | nil : Escaped safe []
  | plain {c : CodePoint} {rest : Text} (hc : c ≠ CodePoint.ofChar '%') (hsafe : safe c = true)
      (h : Escaped safe rest) : Escaped safe (c :: rest)
  | escape {high low : CodePoint} {rest : Text} (hhigh : high.hexValue?.isSome = true)
      (hlow : low.hexValue?.isSome = true) (h : Escaped safe rest) :
      Escaped safe (CodePoint.ofChar '%' :: high :: low :: rest)

namespace Escaped

variable {safe : CodePoint → Bool}

theorem append {s t : Text} (hs : Escaped safe s) (ht : Escaped safe t) :
    Escaped safe (s ++ t) := by
  induction hs with
  | nil => exact ht
  | plain hc hsafe _ ih => exact plain hc hsafe ih
  | escape hhigh hlow _ ih => exact escape hhigh hlow ih

/-- **What needs no escaping is not escaped.** -/
theorem quote_eq_self {t : Text} (h : Escaped safe t) : quote safe t = t := by
  induction h with
  | nil => rfl
  | @plain c rest hc hsafe _ ih =>
    unfold quote
    rw [if_neg hc, if_pos hsafe, ih]
    rfl
  | escape hhigh hlow _ ih =>
    rw [quote, if_pos rfl, if_pos (by rw [hhigh, hlow]; rfl), ih]

theorem flatMap_escape (bytes : Bytes) : Escaped safe (bytes.flatMap Percent.escape) := by
  induction bytes with
  | nil => exact nil
  | cons b bytes ih =>
    have hb := b.toNat_lt
    refine escape ?_ ?_ ih
    · rw [hexValue?_hexDigit (by omega)]
      rfl
    · rw [hexValue?_hexDigit (by omega)]
      rfl

theorem encodeOne (hsafe : ∀ c, isUnreserved c = true → safe c = true) (c : CodePoint) :
    Escaped safe (Percent.encodeOne c) := by
  unfold Percent.encodeOne
  split
  next hc => exact plain (ne_of_isUnreserved hc (by decide)) (hsafe c hc) nil
  next => exact flatMap_escape _

/-- Pieces that need no escaping need none with safe characters between them. -/
theorem join {sep : CodePoint} (hne : sep ≠ CodePoint.ofChar '%') (hsep : safe sep = true)
    {pieces : List Text} (h : ∀ t ∈ pieces, Escaped safe t) :
    Escaped safe (Text.join [sep] pieces) := by
  induction pieces with
  | nil => exact nil
  | cons t pieces ih =>
    have ht := h t List.mem_cons_self
    cases pieces with
    | nil => exact ht
    | cons u pieces =>
      have hrest := ih fun v hv => h v (List.mem_cons_of_mem _ hv)
      show Escaped safe (t ++ [sep] ++ Text.join [sep] (u :: pieces))
      exact (ht.append (plain hne hsep nil)).append hrest

/-- **A segment needs no escaping** where the unreserved characters are safe. -/
theorem encode (hsafe : ∀ c, isUnreserved c = true → safe c = true) (t : Text) :
    Escaped safe (Percent.encode t) := by
  induction t with
  | nil => exact nil
  | cons c t ih => exact append (encodeOne hsafe c) ih

/-- **A form value needs no escaping** where the unreserved characters and `+` are safe. -/
theorem form (hsafe : ∀ c, isUnreserved c = true → safe c = true)
    (hplus : safe (CodePoint.ofChar '+') = true) (t : Text) : Escaped safe (Percent.form t) := by
  induction t with
  | nil => exact nil
  | cons c t ih =>
    refine append (s := formOne c) ?_ ih
    unfold formOne
    split
    next => exact plain (by decide) hplus nil
    next => exact encodeOne hsafe c

end Escaped

end Percent

end JobWatch
