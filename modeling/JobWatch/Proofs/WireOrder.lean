/-
  JobWatch.Proofs.WireOrder
  ─────────────────────────
  **EARLIER ON THE WIRE IS EARLIER IN TIME.**

  The digits of a timestamp stand in the order of their weight, so two
  timestamps can be compared without reading them: digit by digit, from the
  year to the second, and then the fraction, once it has nine digits.  The
  instants that they mean stand in that order:

      digits_lt_iff     — the digits of stamps are ordered as their numbers,
                          and then as their nanoseconds
      lt_of_instant?    — and so are the instants that stamps mean
      lt_iff_digits_lt  — for texts, and for instants of any kind by their
                          distance from the start of 1970
-/
import JobWatch.Proofs.InstantOrder
import JobWatch.Proofs.StampGrammar

namespace JobWatch

/-! ## §1. The digits of a stamp. -/

namespace Stamp

/-- The digits of a stamp in a line: year, month, day, hour, minute and second, then the fraction
with zeros up to nine digits. -/
def digits (s : Stamp) : List Digit :=
  s.year ++ s.month ++ s.day ++ s.hour ++ s.minute ++ s.second ++ s.fraction.rightpad 9 0

/-- The same digits, place by place. -/
def places (s : Stamp) : List (List Digit) :=
  [s.year, s.month, s.day, s.hour, s.minute, s.second, s.fraction.rightpad 9 0]

theorem digits_eq_flatten (s : Stamp) : s.digits = s.places.flatten := by
  unfold digits places
  simp only [List.flatten_cons, List.flatten_nil, List.append_nil, List.append_assoc]

theorem length_rightpad_fraction {s : Stamp} (h : s.Shaped) :
    (s.fraction.rightpad 9 0).length = 9 := by
  have hlength := h.fraction
  rw [List.length_rightpad]
  omega

/-- Every place to the second has its width, whatever the stamp, so only the last one can differ
in width. -/
theorem sameWidths_of_shaped {s s' : Stamp} (h : s.Shaped) (h' : s'.Shaped) {ds es : List Digit}
    (hlast : ds.length = es.length) :
    SameWidths [s.year, s.month, s.day, s.hour, s.minute, s.second, ds]
      [s'.year, s'.month, s'.day, s'.hour, s'.minute, s'.second, es] :=
  .cons (h.year.trans h'.year.symm) (.cons (h.month.trans h'.month.symm)
    (.cons (h.day.trans h'.day.symm) (.cons (h.hour.trans h'.hour.symm)
    (.cons (h.minute.trans h'.minute.symm) (.cons (h.second.trans h'.second.symm)
    (.cons hlast .nil))))))

theorem sameWidths_places {s s' : Stamp} (h : s.Shaped) (h' : s'.Shaped) :
    SameWidths s.places s'.places :=
  sameWidths_of_shaped h h'
    ((length_rightpad_fraction h).trans (length_rightpad_fraction h').symm)

/-- The places write the numbers of the stamp, and the last one its nanoseconds. -/
theorem map_number_places {s : Stamp} (h : s.Shaped) :
    s.places.map number = s.numbers ++ [nanosOf s.fraction] := by
  have hlast : number (s.fraction.rightpad 9 0) = nanosOf s.fraction := by
    rw [List.rightpad, number_append_zeros, nanosOf_eq h.fraction]
  unfold places numbers
  simp only [List.map_cons, List.map_nil, hlast, List.cons_append, List.nil_append]

theorem length_numbers (s s' : Stamp) : s.numbers.length = s'.numbers.length := rfl

/-- **The digits of stamps are ordered as their numbers**, and then as their nanoseconds. -/
theorem digits_lt_iff {s s' : Stamp} (h : s.Shaped) (h' : s'.Shaped) :
    s.digits < s'.digits
      ↔ s.numbers < s'.numbers
        ∨ s.numbers = s'.numbers ∧ nanosOf s.fraction < nanosOf s'.fraction := by
  have hlast (m n : Nat) : [m] < [n] ↔ m < n := by
    rw [List.cons_lt_cons_iff]
    simp
  rw [digits_eq_flatten, digits_eq_flatten, flatten_lt_flatten_iff (sameWidths_places h h'),
    map_number_places h, map_number_places h', append_lt_append_iff _ _ (length_numbers s s'),
    hlast]

/-- They are the same only if those are. -/
theorem digits_eq_iff {s s' : Stamp} (h : s.Shaped) (h' : s'.Shaped) :
    s.digits = s'.digits
      ↔ s.numbers = s'.numbers ∧ nanosOf s.fraction = nanosOf s'.fraction := by
  rw [digits_eq_flatten, digits_eq_flatten, flatten_eq_flatten_iff (sameWidths_places h h'),
    map_number_places h, map_number_places h']
  constructor
  · intro heq
    obtain ⟨hnumbers, hlast⟩ := List.append_inj heq (length_numbers s s')
    exact ⟨hnumbers, (List.cons.inj hlast).1⟩
  · rintro ⟨hnumbers, hnanos⟩
    rw [hnumbers, hnanos]

end Stamp

/-! ## §2. The order of instants. -/

namespace Instant

/-- **So are the instants that stamps mean.** -/
theorem lt_of_instant? {s s' : Stamp} (h : s.Shaped) (h' : s'.Shaped) {i j : Instant}
    (hi : s.instant? = some i) (hj : s'.instant? = some j) :
    (i < j ↔ s.digits < s'.digits) ∧ (i = j ↔ s.digits = s'.digits) := by
  obtain ⟨t, hnumbers, rfl⟩ := Stamp.instant?_eq_some_iff.mp hi
  obtain ⟨t', hnumbers', rfl⟩ := Stamp.instant?_eq_some_iff.mp hj
  have hlt := CalendarTime.epochSeconds_lt_iff t t'
  have heq := CalendarTime.epochSeconds_eq_iff t t'
  rw [hnumbers, hnumbers'] at hlt heq
  rw [lt_iff_seconds, eq_iff_seconds, Stamp.digits_lt_iff h h', Stamp.digits_eq_iff h h', hlt, heq]
  exact ⟨Iff.rfl, Iff.rfl⟩

/-- **Decoded order is the order on the wire.**  Of two texts that are timestamps, the one with the
smaller line of digits means the earlier instant, and they mean the same instant only if their
lines are the same.  Instants of any kind, earlier and later, stand as their nanoseconds since the
start of 1970. -/
theorem lt_iff_digits_lt :
    (∀ {t u : Text} {i j : Instant}, ofWire (.text t) = .ok (some i) →
        ofWire (.text u) = .ok (some j) →
        ∃ s s', Stamp.Spells t.trim s ∧ Stamp.Spells u.trim s'
          ∧ (i < j ↔ s.digits < s'.digits) ∧ (i = j ↔ s.digits = s'.digits))
      ∧ ∀ a b : Instant, (a < b ↔ a.totalNanos < b.totalNanos)
          ∧ (a ≤ b ↔ a.totalNanos ≤ b.totalNanos) ∧ (a = b ↔ a.totalNanos = b.totalNanos) := by
  refine ⟨?_, ?_⟩
  · intro t u i j ht hu
    obtain ⟨s, hspells, hi⟩ := ofWire_text_eq_iff.mp ht
    obtain ⟨s', hspells', hj⟩ := ofWire_text_eq_iff.mp hu
    exact ⟨s, s', hspells, hspells', lt_of_instant? hspells.shaped hspells'.shaped hi hj⟩
  · intro a b
    refine ⟨lt_iff_totalNanos_lt a b, le_iff_totalNanos_le a b, ?_, totalNanos_injective⟩
    intro h
    rw [h]

/-- Two nanoseconds after noon come after noon, though as a raw text the point comes before the
`Z`; the lines of digits say so. -/
theorem lt_iff_digits_lt_noon :
    ofWire (.text "2015-03-04T12:00:00Z") = .ok (some ⟨1425470400, 0, by decide⟩)
      ∧ ofWire (.text "2015-03-04T12:00:00.000000002Z")
        = .ok (some ⟨1425470400, 2, by decide⟩)
      ∧ (⟨1425470400, 0, by decide⟩ : Instant) < ⟨1425470400, 2, by decide⟩
      ∧ ∃ s s', Stamp.Spells (Text.ofString "2015-03-04T12:00:00Z").trim s
          ∧ Stamp.Spells (Text.ofString "2015-03-04T12:00:00.000000002Z").trim s'
          ∧ s.digits < s'.digits := by
  have hnoon : ofText? "2015-03-04T12:00:00Z" = some ⟨1425470400, 0, by decide⟩ := by
    decide +kernel
  have hafter : ofText? "2015-03-04T12:00:00.000000002Z" = some ⟨1425470400, 2, by decide⟩ := by
    decide +kernel
  have hlt : (⟨1425470400, 0, by decide⟩ : Instant) < ⟨1425470400, 2, by decide⟩ := by decide
  obtain ⟨s, s', hs, hs', horder, -⟩ :=
    lt_iff_digits_lt.1 (congrArg Except.ok hnoon) (congrArg Except.ok hafter)
  exact ⟨congrArg Except.ok hnoon, congrArg Except.ok hafter, hlt, s, s', hs, hs',
    horder.mp hlt⟩

end Instant

end JobWatch
