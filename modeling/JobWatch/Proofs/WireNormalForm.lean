/-
  JobWatch.Proofs.WireNormalForm
  ──────────────────────────────
  **WHAT IS READ IS WRITTEN BACK, IN ITS NORMAL FORM.**

  A timestamp in text may have blanks around it, digits of any script and a
  fraction of any width up to nine.  Read as an instant and written for the
  wire again, it has none of these freedoms: the blanks are gone, the digits
  are ASCII, and the fraction is as short as groups of three digits allow.
  Nothing else changes, digit for digit:

      inAscii_of_spells        — in ASCII digits, a text is the stamp it spells
      stamp_eq                 — the stamp of a time that has the numbers of
                                 a stamp is that stamp
      withoutZeroGroups_digits — dropping groups of zeros gives the shortest
                                 exact fraction
      toWire_of_instant?       — a stamp is written back with that fraction
      toWire_of_text           — a text is written back in its normal form,
                                 and as it was if it was in that form
-/
import JobWatch.Proofs.TextPieces
import JobWatch.Proofs.WireRoundTrip

namespace JobWatch

/-! ## §1. The normal form. -/

namespace Text

/-- The text with each digit, of whatever script, replaced by the ASCII digit of its value. -/
def inAscii (t : Text) : Text := t.map fun c => (c.decimalDigit?.map CodePoint.ofDigit).getD c

/-- The three zeros of a group that says nothing. -/
def zeroGroup : Text := List.replicate 3 (CodePoint.ofDigit 0)

/-- What is left of a text when groups of three zeros are taken from its front. -/
def dropGroups : Text → Text
  | a :: b :: c :: rest => if [a, b, c] = zeroGroup then dropGroups rest else a :: b :: c :: rest
  | t => t

/-- The text without the groups of three zeros at its end. -/
def withoutZeroGroups (t : Text) : Text := (dropGroups t.reverse).reverse

/-- The digits between the point of a timestamp and its last letter, if there is a point. -/
def fraction? (t : Text) : Option Text := (t.cut? '.').map fun parts => parts.2.dropLast

/-- A fraction with zeros up to nine digits, then without the groups of zeros at its end, behind
a point; nothing when no digit is left. -/
def shortFraction (fraction : Text) : Text :=
  match withoutZeroGroups (fraction.rightpad 9 (CodePoint.ofDigit 0)) with
  | [] => []
  | short => CodePoint.ofChar '.' :: short

/-- The timestamp with its fraction, if it has one, in the shortest form. -/
def withShortFraction (t : Text) : Text :=
  match t.cut? '.' with
  | none => t
  | some (front, behind) => front ++ shortFraction behind.dropLast ++ [CodePoint.ofChar 'Z']

end Text

/-! ## §2. Texts in ASCII digits. -/

namespace Text

theorem inAscii_append (t u : Text) : (t ++ u).inAscii = t.inAscii ++ u.inAscii :=
  List.map_append

theorem inAscii_cons_of_none {c : CodePoint} (h : c.decimalDigit? = none) (t : Text) :
    inAscii (c :: t) = c :: t.inAscii := by
  show (c.decimalDigit?.map CodePoint.ofDigit).getD c :: t.inAscii = _
  rw [h]
  rfl

theorem Shows.inAscii {t : Text} {ds : List Digit} (h : t.Shows ds) : t.inAscii = ofDigits ds := by
  induction h with
  | nil => rfl
  | @cons c d t ds hc _ ih =>
    show (c.decimalDigit?.map CodePoint.ofDigit).getD c :: t.inAscii = _
    rw [hc, ih]
    rfl

/-- An ASCII digit is the ASCII digit of its value, and nothing else in ASCII is a digit. -/
theorem inAscii_ofNat :
    ∀ n : Fin 128, inAscii [CodePoint.ofNat n.val] = [CodePoint.ofNat n.val] := by
  decide +kernel

theorem inAscii_eq_self {t : Text} (h : ∀ c ∈ t, c.isAscii = true) : t.inAscii = t := by
  induction t with
  | nil => rfl
  | cons c t ih =>
    obtain ⟨hc, ht⟩ := List.forall_mem_cons.mp h
    have hlt : c.val < 128 := of_decide_eq_true hc
    have hself : CodePoint.ofNat c.val = c := dif_pos c.isLt
    have hhead := inAscii_ofNat ⟨c.val, hlt⟩
    rw [hself] at hhead
    rw [← List.singleton_append, inAscii_append, hhead, ih ht]

end Text

namespace Stamp

theorem ShowsFraction.inAscii {t : Text} {ds : List Digit} (h : ShowsFraction t ds) :
    t.inAscii = Stamp.pointed ds := by
  cases h with
  | absent => rfl
  | @pointed t ds hshows hne =>
    rw [Text.inAscii_cons_of_none (by decide), hshows.inAscii]
    cases ds with
    | nil => exact absurd rfl hne
    | cons d ds => rfl

/-- **In ASCII digits, a text is the stamp that it spells.** -/
theorem inAscii_of_spells {t : Text} {s : Stamp} (h : Spells t s) : t.inAscii = s.text := by
  obtain ⟨-, hyear, hmonth, hday, hhour, hminute, hsecond, hfraction⟩ := h
  have hmark (c : Char) (hc : (CodePoint.ofChar c).decimalDigit? = none) (t : Text) :=
    Text.inAscii_cons_of_none hc t
  simp only [Text.inAscii_append, hmark '-' (by decide), hmark 'T' (by decide),
    hmark ':' (by decide), hmark 'Z' (by decide), hyear.inAscii, hmonth.inAscii, hday.inAscii,
    hhour.inAscii, hminute.inAscii, hsecond.inAscii, hfraction.inAscii]
  rfl

end Stamp

/-! ## §3. Groups of zeros. -/

/-- The last digits of a number, behind those in front of them. -/
theorem fixedDigits_add (v w n : Nat) :
    fixedDigits (v + w) n = fixedDigits v (n / 10 ^ w) ++ fixedDigits w n := by
  induction w generalizing n with
  | zero =>
    show fixedDigits v n = fixedDigits v (n / 1) ++ []
    rw [Nat.div_one, List.append_nil]
  | succ w ih =>
    rw [← Nat.add_assoc, fixedDigits_succ, ih, fixedDigits_succ, Nat.div_div_eq_div_mul,
      Nat.pow_succ, Nat.mul_comm 10, List.append_assoc]

namespace Text

theorem ofDigits_append (ds es : List Digit) : ofDigits (ds ++ es) = ofDigits ds ++ ofDigits es :=
  List.map_append

theorem ofDigits_injective {ds es : List Digit} (h : ofDigits ds = ofDigits es) : ds = es := by
  refine List.map_injective_iff.mpr ?_ h
  intro d e hde
  have hsome := congrArg CodePoint.decimalDigit? hde
  rw [CodePoint.decimalDigit?_ofDigit, CodePoint.decimalDigit?_ofDigit] at hsome
  exact Option.some.inj hsome

theorem withoutZeroGroups_append (t : Text) :
    withoutZeroGroups (t ++ zeroGroup) = withoutZeroGroups t := by
  unfold withoutZeroGroups
  rw [List.reverse_append]
  rfl

/-- A text that does not end in a group of zeros stays as it is. -/
theorem withoutZeroGroups_eq_self {t : Text} (h : ¬ zeroGroup <:+ t) : withoutZeroGroups t = t := by
  have hfront : dropGroups t.reverse = t.reverse := by
    rcases hr : t.reverse with _ | ⟨a, _ | ⟨b, _ | ⟨c, rest⟩⟩⟩
    · rfl
    · rfl
    · rfl
    · rw [dropGroups, if_neg]
      intro hgroup
      refine h (List.reverse_prefix.mp ⟨rest, ?_⟩)
      show zeroGroup ++ rest = t.reverse
      rw [hr, ← hgroup]
      rfl
  unfold withoutZeroGroups
  rw [hfront, List.reverse_reverse]

/-- The last three digits of a number are zeros when the number is so many thousands. -/
theorem ofDigits_eq_zeroGroup_iff (n : Nat) :
    ofDigits (fixedDigits 3 n) = zeroGroup ↔ n % 1000 = 0 := by
  have hzeros : zeroGroup = ofDigits [0, 0, 0] := rfl
  have hnumber : number [0, 0, 0] = 0 := rfl
  have hlength : (fixedDigits 3 n).length = [0, 0, 0].length := length_fixedDigits 3 n
  have hlast : number (fixedDigits 3 n) = n % 1000 := number_fixedDigits 3 n
  rw [hzeros, ← hnumber, ← hlast, number_eq_number_iff hlength]
  constructor
  · exact ofDigits_injective
  · intro h
    rw [h]

/-- Three digits more are three zeros more, or the end of what is dropped. -/
theorem withoutZeroGroups_fixedDigits (v n : Nat) :
    withoutZeroGroups (ofDigits (fixedDigits (v + 3) n))
      = if n % 1000 = 0 then withoutZeroGroups (ofDigits (fixedDigits v (n / 1000)))
        else ofDigits (fixedDigits (v + 3) n) := by
  split
  next h =>
    rw [fixedDigits_add, ofDigits_append, (ofDigits_eq_zeroGroup_iff n).mpr h,
      withoutZeroGroups_append]
    rfl
  next h =>
    refine withoutZeroGroups_eq_self ?_
    -- a group of zeros at the end would be the last three digits of the number
    rw [fixedDigits_add, ofDigits_append]
    rintro ⟨front, hfront⟩
    have hlength : zeroGroup.length = (ofDigits (fixedDigits 3 n)).length := by
      rw [ofDigits, List.length_map, length_fixedDigits]
      rfl
    have hlast := (List.append_inj' hfront hlength).2
    exact h ((ofDigits_eq_zeroGroup_iff n).mp hlast.symm)

/-- **Dropping groups of zeros gives the shortest exact fraction.** -/
theorem withoutZeroGroups_digits {n : Nat} (h : n < nanosPerSecond) :
    withoutZeroGroups (ofDigits (fixedDigits 9 n)) = ofDigits (wireDigits n) := by
  have h9 := withoutZeroGroups_fixedDigits 6 n
  have h6 := withoutZeroGroups_fixedDigits 3 (n / 1000)
  have h3 := withoutZeroGroups_fixedDigits 0 (n / 1000000)
  unfold nanosPerSecond at h
  unfold wireDigits
  by_cases h0 : n = 0
  · rw [h0]
    rfl
  by_cases hmillis : n % 1000000 = 0
  · -- the last two groups go, and the first is not all zeros
    rw [h9, if_pos (by omega), h6, if_pos (by omega), Nat.div_div_eq_div_mul, h3,
      if_neg (by omega), if_neg h0, if_pos hmillis]
  by_cases hmicros : n % 1000 = 0
  · rw [h9, if_pos hmicros, h6, if_neg (by omega), if_neg h0, if_neg hmillis, if_pos hmicros]
  · rw [h9, if_neg hmicros, if_neg h0, if_neg hmillis, if_neg hmicros]

/-- The digits of a fraction with zeros up to nine are those of its nanoseconds. -/
theorem rightpad_ofDigits {ds : List Digit} (h : ds.length ≤ 9) :
    (ofDigits ds).rightpad 9 (CodePoint.ofDigit 0)
      = ofDigits (fixedDigits 9 (Stamp.nanosOf ds)) := by
  have hlength : (ds ++ List.replicate (9 - ds.length) 0).length = 9 := by
    rw [List.length_append, List.length_replicate]
    omega
  rw [Stamp.nanosOf_eq h, ← number_append_zeros, fixedDigits_number hlength, ofDigits_append,
    List.rightpad, ofDigits, List.length_map, ofDigits, List.map_replicate]

theorem shortFraction_ofDigits {ds : List Digit} (h : ds.length ≤ 9) :
    shortFraction (ofDigits ds) = Stamp.pointed (wireDigits (Stamp.nanosOf ds)) := by
  unfold shortFraction
  rw [rightpad_ofDigits h, withoutZeroGroups_digits (Stamp.nanosOf_lt ds)]
  cases wireDigits (Stamp.nanosOf ds) with
  | nil => rfl
  | cons d ds => rfl

/-- A fraction of whole groups that does not end in zeros is as short as can be. -/
theorem shortFraction_eq_self {fraction : Text} (hlength : fraction.length ∈ [3, 6, 9])
    (h : ¬ zeroGroup <:+ fraction) :
    shortFraction fraction = CodePoint.ofChar '.' :: fraction := by
  have hshort : withoutZeroGroups (fraction.rightpad 9 (CodePoint.ofDigit 0)) = fraction := by
    have hself := withoutZeroGroups_eq_self h
    unfold List.rightpad
    simp only [List.mem_cons, List.not_mem_nil, or_false] at hlength
    -- the zeros that are added make whole groups, and these are dropped again
    rcases hlength with h3 | h6 | h9
    · rw [h3]
      show withoutZeroGroups (fraction ++ (zeroGroup ++ zeroGroup)) = fraction
      rw [← List.append_assoc, withoutZeroGroups_append, withoutZeroGroups_append, hself]
    · rw [h6]
      show withoutZeroGroups (fraction ++ zeroGroup) = fraction
      rw [withoutZeroGroups_append, hself]
    · rw [h9]
      show withoutZeroGroups (fraction ++ []) = fraction
      rw [List.append_nil, hself]
  unfold shortFraction
  rw [hshort]
  cases fraction with
  | nil => exact absurd hlength (by decide)
  | cons c fraction => rfl

end Text

/-! ## §4. Stamps. -/

namespace Stamp

/-- What stands before the fraction. -/
def front (s : Stamp) : Text :=
  Text.ofDigits s.year ++ CodePoint.ofChar '-' :: Text.ofDigits s.month
    ++ CodePoint.ofChar '-' :: Text.ofDigits s.day
    ++ CodePoint.ofChar 'T' :: Text.ofDigits s.hour
    ++ CodePoint.ofChar ':' :: Text.ofDigits s.minute
    ++ CodePoint.ofChar ':' :: Text.ofDigits s.second

theorem text_eq (s : Stamp) :
    s.text = s.front ++ pointed s.fraction ++ [CodePoint.ofChar 'Z'] := rfl

theorem ne_point_of_mem_ofDigits {ds : List Digit} :
    ∀ c ∈ Text.ofDigits ds, c ≠ CodePoint.ofChar '.' := by
  intro c hc
  obtain ⟨d, -, rfl⟩ := List.mem_map.mp hc
  have hd : ∀ d : Digit, CodePoint.ofDigit d ≠ CodePoint.ofChar '.' := by decide
  exact hd d

/-- There is no point before the fraction. -/
theorem ne_point_of_mem_front (s : Stamp) : ∀ c ∈ s.front, c ≠ CodePoint.ofChar '.' := by
  have hcons {c : CodePoint} (hc : c ≠ CodePoint.ofChar '.') (ds : List Digit) :
      ∀ d ∈ c :: Text.ofDigits ds, d ≠ CodePoint.ofChar '.' :=
    List.forall_mem_cons.mpr ⟨hc, ne_point_of_mem_ofDigits⟩
  unfold front
  simp only [List.forall_mem_append]
  exact ⟨⟨⟨⟨⟨ne_point_of_mem_ofDigits, hcons (by decide) _⟩, hcons (by decide) _⟩,
    hcons (by decide) _⟩, hcons (by decide) _⟩, hcons (by decide) _⟩

/-- The point of a stamp, where there is one, stands before its fraction. -/
theorem cut?_text (s : Stamp) :
    s.text.cut? '.' = if s.fraction = [] then none
      else some (s.front, Text.ofDigits s.fraction ++ [CodePoint.ofChar 'Z']) := by
  rw [text_eq]
  cases hf : s.fraction with
  | nil =>
    refine Text.cut?_of_none (List.forall_mem_append.mpr ⟨?_, ?_⟩)
    · rw [pointed, List.append_nil]
      exact s.ne_point_of_mem_front
    · decide
  | cons d ds =>
    rw [if_neg (List.cons_ne_nil d ds), pointed, List.append_assoc, List.cons_append]
    exact Text.cut?_append s.ne_point_of_mem_front _

theorem fraction?_text (s : Stamp) :
    s.text.fraction? = if s.fraction = [] then none else some (Text.ofDigits s.fraction) := by
  unfold Text.fraction?
  rw [cut?_text, apply_ite (Option.map _)]
  simp only [Option.map_none, Option.map_some, List.dropLast_concat]

/-- A stamp with the shortest exact fraction. -/
def shortened (s : Stamp) : Stamp := { s with fraction := wireDigits (nanosOf s.fraction) }

theorem withShortFraction_text {s : Stamp} (h : s.Shaped) :
    s.text.withShortFraction = s.shortened.text := by
  unfold Text.withShortFraction
  rw [cut?_text]
  cases hf : s.fraction with
  | nil =>
    show s.text = s.front ++ pointed (wireDigits (nanosOf s.fraction)) ++ [CodePoint.ofChar 'Z']
    rw [text_eq, hf]
    rfl
  | cons d ds =>
    rw [if_neg (List.cons_ne_nil d ds), ← hf]
    show s.front ++ Text.shortFraction (Text.ofDigits s.fraction ++ [_]).dropLast ++ [_] = _
    rw [List.dropLast_concat, Text.shortFraction_ofDigits h.fraction]
    rfl

/-- A stamp whose fraction is as short as can be is not shortened. -/
theorem withShortFraction_text_eq_self {s : Stamp}
    (h : ∀ fraction ∈ s.text.fraction?,
      fraction.length ∈ [3, 6, 9] ∧ ¬ Text.zeroGroup <:+ fraction) :
    s.text.withShortFraction = s.text := by
  unfold Text.withShortFraction
  rw [cut?_text]
  rw [fraction?_text] at h
  cases hf : s.fraction with
  | nil => rfl
  | cons d ds =>
    rw [hf, if_neg (List.cons_ne_nil d ds)] at h
    obtain ⟨hlength, hgroup⟩ := h _ rfl
    rw [if_neg (List.cons_ne_nil d ds)]
    show s.front ++ Text.shortFraction (Text.ofDigits (d :: ds) ++ [_]).dropLast ++ [_] = _
    rw [List.dropLast_concat, Text.shortFraction_eq_self hlength hgroup, text_eq, hf]
    rfl

/-- **The stamp of a time that has the numbers of a stamp is that stamp.** -/
theorem stamp_eq {s : Stamp} (h : s.Shaped) {t : CalendarTime} (hnumbers : t.numbers = s.numbers)
    (fraction : List Digit) : t.stamp fraction = { s with fraction := fraction } := by
  obtain ⟨hyear, hmonth, hday, hhour, hminute, hsecond⟩ := numbers_eq_iff.mp hnumbers
  unfold CalendarTime.stamp
  rw [hyear, hmonth, hday, hhour, hminute, hsecond, fixedDigits_number h.year,
    fixedDigits_number h.month, fixedDigits_number h.day, fixedDigits_number h.hour,
    fixedDigits_number h.minute, fixedDigits_number h.second]

/-- **A stamp is written back with the shortest exact fraction.** -/
theorem toWire_of_instant? {s : Stamp} (h : s.Shaped) {i : Instant} (hi : s.instant? = some i) :
    i.toWire = .ok s.shortened.text := by
  obtain ⟨t, hnumbers, rfl⟩ := instant?_eq_some_iff.mp hi
  have hrange : Instant.minSeconds ≤ t.epochSeconds ∧ t.epochSeconds ≤ Instant.maxSeconds :=
    Instant.epochSeconds_range t
  obtain ⟨t', ht'⟩ : ∃ t', Instant.calendarTime ⟨t.epochSeconds, _, _⟩ = .ok t' :=
    Instant.calendarTime_of_range hrange
  -- the time found from the seconds is the one that gave them
  have hsame := (CalendarTime.epochSeconds_eq_iff t' t).mp
    (Instant.epochSeconds_of_calendarTime ht')
  rw [Instant.toWire_eq ht', stamp_eq h (hsame.trans hnumbers)]
  rfl

end Stamp

/-! ## §5. Texts. -/

namespace Instant

/-- **A text is written back in its normal form**: trimmed, in ASCII digits, with the fraction in
the shortest form.  So a text in ASCII that has no blanks at its ends, and no fraction or one of
three, six or nine digits of which the last three are not all zeros, is written back as it was. -/
theorem toWire_of_text {t : Text} {i : Instant} (h : ofWire (.text t) = .ok (some i)) :
    i.toWire = .ok t.trim.inAscii.withShortFraction
      ∧ ((∀ c ∈ t, c.isAscii = true) → t.trim = t →
          (∀ fraction ∈ t.fraction?,
            fraction.length ∈ [3, 6, 9] ∧ ¬ Text.zeroGroup <:+ fraction) →
          i.toWire = .ok t) := by
  obtain ⟨s, hspells, hinstant⟩ := ofWire_text_eq_iff.mp h
  have htext := Stamp.inAscii_of_spells hspells
  have hwire : i.toWire = .ok t.trim.inAscii.withShortFraction := by
    rw [htext, Stamp.withShortFraction_text hspells.shaped]
    exact Stamp.toWire_of_instant? hspells.shaped hinstant
  refine ⟨hwire, ?_⟩
  intro hascii htrim hfraction
  rw [htrim, Text.inAscii_eq_self hascii] at htext hwire
  rw [hwire]
  rw [htext] at hfraction ⊢
  rw [Stamp.withShortFraction_text_eq_self hfraction]

/-- A leap day in digits of two scripts, with blanks around it and one digit of fraction, is
written back without the blanks, in ASCII and with three digits.  The last microsecond before 1970
is written back as it was. -/
theorem toWire_of_text_leapDay :
    ofWire (.text " ٢٠٠٠-02-29T00:00:00.5Z\n") = .ok (some ⟨951782400, 500000000, by decide⟩)
      ∧ (Text.ofString " ٢٠٠٠-02-29T00:00:00.5Z\n").trim.inAscii.withShortFraction
        = Text.ofString "2000-02-29T00:00:00.500Z"
      ∧ (⟨951782400, 500000000, by decide⟩ : Instant).toWire
        = .ok (Text.ofString "2000-02-29T00:00:00.500Z")
      ∧ ofWire (.text "1969-12-31T23:59:59.999999Z") = .ok (some ⟨-1, 999999000, by decide⟩)
      ∧ (⟨-1, 999999000, by decide⟩ : Instant).toWire
        = .ok (Text.ofString "1969-12-31T23:59:59.999999Z") := by
  have hleap : ofText? " ٢٠٠٠-02-29T00:00:00.5Z\n"
      = some ⟨951782400, 500000000, by decide⟩ := by decide +kernel
  have hform : (Text.ofString " ٢٠٠٠-02-29T00:00:00.5Z\n").trim.inAscii.withShortFraction
      = Text.ofString "2000-02-29T00:00:00.500Z" := by decide +kernel
  have hlast : ofText? "1969-12-31T23:59:59.999999Z"
      = some ⟨-1, 999999000, by decide⟩ := by decide +kernel
  have hwire := (toWire_of_text (congrArg Except.ok hleap)).1
  rw [hform] at hwire
  exact ⟨congrArg Except.ok hleap, hform, hwire, congrArg Except.ok hlast,
    (toWire_of_text (congrArg Except.ok hlast)).2 (by decide) (by decide +kernel)
      (by decide +kernel)⟩

end Instant

end JobWatch
