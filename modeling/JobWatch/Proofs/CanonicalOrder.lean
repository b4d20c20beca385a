/-
  JobWatch.Proofs.CanonicalOrder
  ──────────────────────────────
  **CANONICAL TEXTS STAND IN THE ORDER OF THEIR MILLISECONDS.**

  The canonical text of an instant has a place for every digit, from the
  thousands of the year to the milliseconds, and the marks between them stand
  always in the same places.  So two such texts are compared by their digits
  alone, and these by the milliseconds that they mean; what is less than a
  millisecond is not written:

      ofDigits_lt_iff        — written digits are ordered as the digits
      marked_lt_iff          — marks in the same places make no difference
      Stamp.text_lt_iff      — stamps in writing are ordered by their digits
      exists_canonical_stamp — the canonical text is a stamp of three digits of
                               fraction, and means the milliseconds
      canonical_by_millis    — width, order, equality and reading of it
-/
import JobWatch.Proofs.WireOrder
import JobWatch.Proofs.WireRoundTrip

namespace JobWatch

/-! ## §1. The order of code points. -/

namespace CodePoint

theorem val_injective {c d : CodePoint} (h : c.val = d.val) : c = d := by
  obtain ⟨n, hn⟩ := c
  obtain ⟨m, hm⟩ := d
  rw [mk.injEq]
  exact h

instance : LE CodePoint := ⟨fun c d => c.val ≤ d.val⟩

instance (c d : CodePoint) : Decidable (c ≤ d) := inferInstanceAs (Decidable (c.val ≤ d.val))

/-- **Code points are a linear order**, by their numbers. -/
instance : LinearOrder CodePoint where
  le_refl c := Nat.le_refl c.val
  le_trans _ _ _ h h' := Nat.le_trans h h'
  lt_iff_le_not_ge c d := Nat.lt_iff_le_and_not_ge
  le_antisymm _ _ h h' := val_injective (Nat.le_antisymm h h')
  le_total c d := Nat.le_total c.val d.val
  toDecidableLE := inferInstance
  toDecidableLT := inferInstance
  toDecidableEq := inferInstance

theorem ofDigit_lt_iff (d e : Digit) : ofDigit d < ofDigit e ↔ d < e := by
  show 0x30 + d.val < 0x30 + e.val ↔ d.val < e.val
  omega

theorem ofDigit_eq_iff (d e : Digit) : ofDigit d = ofDigit e ↔ d = e := by
  constructor
  · intro h
    have hval := congrArg CodePoint.val h
    exact Fin.ext (Nat.add_left_cancel hval)
  · exact congrArg ofDigit

end CodePoint

/-! ## §2. Digits between marks. -/

namespace Text

/-- **Written digits are ordered as the digits.** -/
theorem ofDigits_lt_iff (ds es : List Digit) : ofDigits ds < ofDigits es ↔ ds < es := by
  induction ds generalizing es with
  | nil => cases es <;> simp [ofDigits]
  | cons d ds ih =>
    cases es with
    | nil => simp [ofDigits]
    | cons e es =>
      rw [ofDigits_cons, ofDigits_cons, List.cons_lt_cons_iff, List.cons_lt_cons_iff, ih,
        CodePoint.ofDigit_lt_iff, CodePoint.ofDigit_eq_iff]

theorem length_ofDigits (ds : List Digit) : (ofDigits ds).length = ds.length :=
  List.length_map _

/-- Blocks of digits in writing, each with its mark behind it. -/
def marked : List (List Digit) → Text → Text
  | block :: blocks, mark :: marks => ofDigits block ++ mark :: marked blocks marks
  | _, _ => []

/-- There is one character for each digit and for each mark. -/
theorem length_marked {blocks : List (List Digit)} {marks : Text}
    (h : blocks.length = marks.length) :
    (marked blocks marks).length = blocks.flatten.length + marks.length := by
  induction blocks generalizing marks with
  | nil =>
    obtain rfl := List.length_eq_zero_iff.mp h.symm
    rfl
  | cons block blocks ih =>
    cases marks with
    | nil => exact absurd h (by simp)
    | cons mark marks =>
      rw [marked, List.length_append, length_ofDigits, List.length_cons, ih (Nat.succ.inj h),
        List.flatten_cons, List.length_append, List.length_cons]
      omega

/-- **Marks in the same places make no difference**: blocks of the same widths are ordered in
writing as their digits are in a line. -/
theorem marked_lt_iff {bs cs : List (List Digit)} (h : SameWidths bs cs) {marks : Text}
    (hmarks : bs.length = marks.length) :
    marked bs marks < marked cs marks ↔ bs.flatten < cs.flatten := by
  induction h generalizing marks with
  | nil =>
    obtain rfl := List.length_eq_zero_iff.mp hmarks.symm
    simp [marked]
  | @cons b c bs cs hhead _ ih =>
    cases marks with
    | nil => exact absurd hmarks (by simp)
    | cons mark marks =>
      have hwidth : (ofDigits b).length = (ofDigits c).length := by
        rw [length_ofDigits, length_ofDigits, hhead]
      have hsame : ofDigits b = ofDigits c ↔ b = c := by
        constructor
        · intro heq
          rcases lt_trichotomy b c with hlt | hbc | hgt
          · exact absurd ((ofDigits_lt_iff b c).mpr hlt) (heq ▸ lt_irrefl _)
          · exact hbc
          · exact absurd ((ofDigits_lt_iff c b).mpr hgt) (heq ▸ lt_irrefl _)
        · exact congrArg ofDigits
      rw [marked, marked, append_lt_append_iff _ _ hwidth, List.cons_lt_cons_self,
        ih (Nat.succ.inj hmarks), ofDigits_lt_iff, hsame, List.flatten_cons, List.flatten_cons,
        append_lt_append_iff _ _ hhead]

end Text

/-! ## §3. Stamps in writing. -/

namespace Stamp

/-- The marks of a stamp that has a fraction. -/
def marks : Text := "--T::.Z"

/-- The digits of a stamp as they are written, place by place. -/
def blocks (s : Stamp) : List (List Digit) :=
  [s.year, s.month, s.day, s.hour, s.minute, s.second, s.fraction]

theorem text_eq_marked {s : Stamp} (h : s.fraction ≠ []) : s.text = Text.marked s.blocks marks := by
  obtain ⟨d, ds, hfraction⟩ := List.exists_cons_of_ne_nil h
  unfold text blocks
  rw [hfraction]
  simp only [pointed, List.append_assoc, List.cons_append]
  rfl

/-- The line of digits has those that are written, and then zeros. -/
theorem digits_eq_append (s : Stamp) :
    s.digits = s.blocks.flatten ++ List.replicate (9 - s.fraction.length) 0 := by
  unfold digits blocks
  simp only [List.flatten_cons, List.flatten_nil, List.append_nil, List.append_assoc,
    List.rightpad]

theorem length_flatten_blocks {s : Stamp} (h : s.Shaped) :
    s.blocks.flatten.length = s.fraction.length + 14 := by
  unfold blocks
  simp only [List.flatten_cons, List.flatten_nil, List.length_append, List.length_nil, h.year,
    h.month, h.day, h.hour, h.minute, h.second]
  omega

/-- **Stamps in writing are ordered by their digits**, if their fractions are of one width. -/
theorem text_lt_iff {s s' : Stamp} (h : s.Shaped) (h' : s'.Shaped) (hfraction : s.fraction ≠ [])
    (hwidth : s.fraction.length = s'.fraction.length) : s.text < s'.text ↔ s.digits < s'.digits := by
  have hfraction' : s'.fraction ≠ [] := by
    rw [← List.length_pos_iff, ← hwidth]
    exact List.length_pos_iff.mpr hfraction
  have hblocks : SameWidths s.blocks s'.blocks := sameWidths_of_shaped h h' hwidth
  have hlength : s.blocks.flatten.length = s'.blocks.flatten.length := by
    rw [length_flatten_blocks h, length_flatten_blocks h', hwidth]
  rw [text_eq_marked hfraction, text_eq_marked hfraction', Text.marked_lt_iff hblocks rfl,
    digits_eq_append, digits_eq_append, ← hwidth, append_lt_append_iff _ _ hlength]
  -- the zeros behind the digits are the same on both sides, and decide nothing
  exact ⟨Or.inl, fun hdigits => hdigits.resolve_right fun hsame => lt_irrefl _ hsame.2⟩

/-- A stamp has fourteen digits, seven marks and the digits of its fraction. -/
theorem length_text {s : Stamp} (h : s.Shaped) (hfraction : s.fraction ≠ []) :
    s.text.length = s.fraction.length + 21 := by
  rw [text_eq_marked hfraction, Text.length_marked rfl, length_flatten_blocks h]
  rfl

end Stamp

/-! ## §4. Canonical texts. -/

namespace Instant

/-- **The canonical text is a stamp of three digits of fraction**, and means the milliseconds of
the instant. -/
theorem exists_canonical_stamp {i : Instant}
    (h : minSeconds ≤ i.seconds ∧ i.seconds ≤ maxSeconds) :
    ∃ s : Stamp, s.Shaped ∧ s.fraction.length = 3 ∧ i.canonical = .ok s.text
      ∧ s.instant? = some (ofMillis i.millis) := by
  obtain ⟨t, ht⟩ := calendarTime_of_range h
  have hlt := i.nanos_lt
  unfold nanosPerSecond at hlt
  have hlength : (fixedDigits 3 (i.nanos / 1000000)).length = 3 := length_fixedDigits _ _
  have hnanos : Stamp.nanosOf (fixedDigits 3 (i.nanos / 1000000))
      = i.nanos / 1000000 * 1000000 := Stamp.nanosOf_fixedDigits (by decide) (by omega)
  refine ⟨t.stamp (fixedDigits 3 (i.nanos / 1000000)), t.stamp_shaped (by omega), hlength, ?_, ?_⟩
  · unfold canonical stamped
    rw [ht, CalendarTime.text_stamp, Stamp.pointed_fixedDigits]
  · rw [CalendarTime.instant?_stamp, Option.some.injEq, eq_iff_seconds]
    -- the seconds and the thousandths make the count of milliseconds, and come apart again
    simp only [epochSeconds_of_calendarTime ht, hnanos, ofMillis, millis]
    omega

/-- **The canonical form is of one width, stands in the order of time, and is read back to the
millisecond.**  Instants of the calendar have texts of 24 characters.  Of two such texts, compared
by their code points, the one with fewer milliseconds comes first, and they are the same if the
milliseconds are; so a later instant never comes first.  Read back, a text gives the start of the
millisecond of its instant. -/
theorem canonical_by_millis {a b : Instant} (ha : minSeconds ≤ a.seconds ∧ a.seconds ≤ maxSeconds)
    (hb : minSeconds ≤ b.seconds ∧ b.seconds ≤ maxSeconds) :
    ∃ ta tb, a.canonical = .ok ta ∧ b.canonical = .ok tb ∧ ta.length = 24
      ∧ (a ≤ b → ta ≤ tb) ∧ (ta < tb ↔ a.millis < b.millis) ∧ (ta = tb ↔ a.millis = b.millis)
      ∧ ofWire (.text ta) = .ok (some (ofMillis a.millis)) := by
  obtain ⟨s, hs, hwidth, hta, hsa⟩ := exists_canonical_stamp ha
  obtain ⟨s', hs', hwidth', htb, hsb⟩ := exists_canonical_stamp hb
  have hfraction : s.fraction ≠ [] := by
    rw [← List.length_pos_iff]
    omega
  have hfraction' : s'.fraction ≠ [] := by
    rw [← List.length_pos_iff]
    omega
  -- text against text, digits against digits, instants and then milliseconds
  have hlt : s.text < s'.text ↔ a.millis < b.millis := by
    rw [Stamp.text_lt_iff hs hs' hfraction (hwidth.trans hwidth'.symm),
      ← (lt_of_instant? hs hs' hsa hsb).1, ofMillis_lt_iff]
  have hgt : s'.text < s.text ↔ b.millis < a.millis := by
    rw [Stamp.text_lt_iff hs' hs hfraction' (hwidth'.trans hwidth.symm),
      ← (lt_of_instant? hs' hs hsb hsa).1, ofMillis_lt_iff]
  have heq : s.text = s'.text ↔ a.millis = b.millis := by
    rw [eq_iff_le_not_lt, ← not_lt, hgt, hlt]
    omega
  refine ⟨s.text, s'.text, hta, htb, ?_, ?_, hlt, heq, ?_⟩
  · rw [Stamp.length_text hs hfraction, hwidth]
  · intro hle
    have hmillis := millis_le_of_le hle
    rw [← not_lt, hgt]
    omega
  · show Except.ok (ofText? s.text) = _
    rw [Stamp.ofText?_text hs, hsa]

/-- The first millisecond of the year 1 and the last one before 1970 are written with as many
characters, and read back without the nanoseconds behind them. -/
theorem canonical_by_millis_beforeEpoch :
    minSeconds ≤ -1 ∧ (-1 : Int) ≤ maxSeconds
      ∧ ∃ ta tb : Text, ta = "0001-01-01T00:00:00.001Z" ∧ tb = "1969-12-31T23:59:59.999Z"
          ∧ ta.length = 24 ∧ ta ≤ tb
          ∧ ofWire (.text ta) = .ok (some ⟨minSeconds, 1000000, by decide⟩)
          ∧ ofWire (.text tb) = .ok (some ⟨-1, 999000000, by decide⟩) := by
  have hfirst : (⟨minSeconds, 1999999, by decide⟩ : Instant).canonical
      = .ok "0001-01-01T00:00:00.001Z" := by decide +kernel
  have hlast : (⟨-1, 999999999, by decide⟩ : Instant).canonical
      = .ok "1969-12-31T23:59:59.999Z" := by decide +kernel
  obtain ⟨ta, tb, hta, htb, hlength, horder, -, -, hread⟩ :=
    canonical_by_millis (a := ⟨minSeconds, 1999999, by decide⟩)
      (b := ⟨-1, 999999999, by decide⟩) (by decide) (by decide)
  obtain ⟨tb', -, htb', -, -, -, -, -, hread'⟩ :=
    canonical_by_millis (a := ⟨-1, 999999999, by decide⟩)
      (b := ⟨-1, 999999999, by decide⟩) (by decide) (by decide)
  obtain rfl := Except.ok.inj (htb.symm.trans htb')
  exact ⟨by decide, by decide, ta, tb, Except.ok.inj (hta.symm.trans hfirst),
    Except.ok.inj (htb.symm.trans hlast), hlength, horder (by decide), hread, hread'⟩

end Instant

end JobWatch
