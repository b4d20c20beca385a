/-
  JobWatch.Proofs.DigitText
  ─────────────────────────
  **WRITTEN DIGITS READ BACK.**

  Digits are written in ASCII and read in any script, so what is written is
  read as it was.  That goes for a fixed count of digits, for as many as
  stand at the front of a text, and for a whole number with its sign:

      digits?_of_shows     — so many digits, and what follows them
      spanDigits_of_shows  — all digits, up to what is none
      trimWhile_eq_self    — a text without blanks at its ends is not trimmed
      readInt?_ofInt       — an integer in decimal is read as that integer
-/
import JobWatch.Number.Whole
import JobWatch.Time.Stamp

namespace JobWatch

/-! ## §1. Digits at the front of a text. -/

/-- A number with no more digits than are written is written in full. -/
theorem number_fixedDigits_of_lt {w n : Nat} (h : n < 10 ^ w) : number (fixedDigits w n) = n := by
  rw [number_fixedDigits, Nat.mod_eq_of_lt h]

/-- A text shows digits: its characters are those digits one by one, each in any script. -/
inductive Text.Shows : Text → List Digit → Prop where
  /-- Nothing shows no digits. -/
  | nil : Text.Shows [] []
  /-- One more digit is shown in front. -/
  | cons {c : CodePoint} {d : Digit} {t : Text} {ds : List Digit} :
      c.decimalDigit? = some d → Text.Shows t ds → Text.Shows (c :: t) (d :: ds)

/-- Digits as they are written. -/
def Text.ofDigits (ds : List Digit) : Text := ds.map CodePoint.ofDigit

theorem Text.padded_eq_ofDigits (width n : Nat) :
    Text.padded width n = Text.ofDigits (fixedDigits width n) := rfl

theorem Text.ofDigits_cons (d : Digit) (ds : List Digit) :
    Text.ofDigits (d :: ds) = CodePoint.ofDigit d :: Text.ofDigits ds := rfl

theorem Text.shows_ofDigits (ds : List Digit) : Text.Shows (Text.ofDigits ds) ds := by
  induction ds with
  | nil => exact .nil
  | cons d ds ih => exact .cons (CodePoint.decimalDigit?_ofDigit d) ih

/-- **So many digits**, and what follows them. -/
theorem Stamp.digits?_of_shows {n : Nat} {shown : Text} {ds : List Digit}
    (h : Text.Shows shown ds) (hn : ds.length = n) (rest : Text) :
    Stamp.digits? n (shown ++ rest) = some (ds, rest) := by
  subst hn
  induction h with
  | nil => rfl
  | cons hc _ ih =>
    rw [List.length_cons, List.cons_append, Stamp.digits?, hc]
    simp only [ih]
    rfl

/-- Digits are found where so many are shown, and nowhere else. -/
theorem Stamp.digits?_eq_some_iff {n : Nat} {t rest : Text} {ds : List Digit} :
    Stamp.digits? n t = some (ds, rest)
      ↔ ∃ shown, Text.Shows shown ds ∧ ds.length = n ∧ t = shown ++ rest := by
  constructor
  · intro h
    induction n generalizing t ds with
    | zero =>
      obtain ⟨rfl, rfl⟩ := Prod.mk.inj (Option.some.inj h)
      exact ⟨[], .nil, rfl, rfl⟩
    | succ n ih =>
      cases t with
      | nil => exact absurd h (by simp [Stamp.digits?])
      | cons c t =>
        unfold Stamp.digits? at h
        split at h
        next => exact absurd h (by simp)
        next d hd =>
          obtain ⟨⟨ds', rest'⟩, hrest, hpair⟩ := Option.map_eq_some_iff.mp h
          obtain ⟨rfl, rfl⟩ := Prod.mk.inj hpair
          obtain ⟨shown, hshown, hlength, rfl⟩ := ih hrest
          exact ⟨c :: shown, .cons hd hshown, congrArg Nat.succ hlength, rfl⟩
  · rintro ⟨shown, hshown, hlength, rfl⟩
    exact digits?_of_shows hshown hlength rest

theorem Stamp.mark?_cons_self (c : CodePoint) (rest : Text) :
    Stamp.mark? c (c :: rest) = some rest := if_pos rfl

theorem Stamp.mark?_eq_some_iff {c : CodePoint} {t rest : Text} :
    Stamp.mark? c t = some rest ↔ t = c :: rest := by
  constructor
  · intro h
    cases t with
    | nil => exact absurd h (by simp [Stamp.mark?])
    | cons d t =>
      rw [Stamp.mark?] at h
      by_cases hd : d = c
      · rw [if_pos hd] at h
        rw [hd, Option.some.inj h]
      · rw [if_neg hd] at h
        exact absurd h (by simp)
  · intro h
    rw [h, mark?_cons_self]

/-- **All digits**, up to what is none. -/
theorem Text.spanDigits_of_shows {shown : Text} {ds : List Digit} (h : Text.Shows shown ds)
    {c : CodePoint} (hc : c.decimalDigit? = none) (rest : Text) :
    Text.spanDigits (shown ++ c :: rest) = (ds, c :: rest) := by
  induction h with
  | nil =>
    show Text.spanDigits (c :: rest) = _
    unfold Text.spanDigits
    rw [hc]
  | cons hd _ ih =>
    rw [List.cons_append]
    unfold Text.spanDigits
    rw [hd]
    simp only [ih]

/-- The digits at the front of a text are shown there, and nothing is lost. -/
theorem Text.exists_shows_spanDigits (t : Text) :
    ∃ shown, Text.Shows shown (spanDigits t).1 ∧ t = shown ++ (spanDigits t).2 := by
  induction t with
  | nil => exact ⟨[], .nil, rfl⟩
  | cons c t ih =>
    unfold spanDigits
    split
    next => exact ⟨[], .nil, rfl⟩
    next d hd =>
      obtain ⟨shown, hshown, ht⟩ := ih
      exact ⟨c :: shown, .cons hd hshown, congrArg (c :: ·) ht⟩

/-- Digits with nothing behind them. -/
theorem Text.spanDigits_ofDigits_self (ds : List Digit) :
    Text.spanDigits (Text.ofDigits ds) = (ds, []) := by
  induction ds with
  | nil => rfl
  | cons d ds ih =>
    rw [Text.ofDigits_cons]
    unfold Text.spanDigits
    rw [CodePoint.decimalDigit?_ofDigit]
    simp only [ih]

/-! ## §2. Trimming. -/

namespace Text

theorem dropEndWhile_eq_self {drops : CodePoint → Bool} {t : Text} {c : CodePoint}
    (h : drops c = false) : dropEndWhile drops (t ++ [c]) = t ++ [c] := by
  unfold dropEndWhile
  rw [List.reverse_append, List.reverse_singleton, List.singleton_append,
    List.dropWhile_cons_of_neg (by simp [h]), List.reverse_cons, List.reverse_reverse]

/-- **A text that neither begins nor ends with what may be dropped** is not trimmed. -/
theorem trimWhile_eq_self {drops : CodePoint → Bool} {t : Text} (hne : t ≠ [])
    (hhead : ∀ c ∈ t.head?, drops c = false) (hlast : ∀ c ∈ t.getLast?, drops c = false) :
    trimWhile drops t = t := by
  have hfront : t.dropWhile drops = t := by
    cases t with
    | nil => rfl
    | cons c rest => exact List.dropWhile_cons_of_neg (by simp [hhead c rfl])
  unfold trimWhile
  rw [hfront]
  obtain ⟨front, c, rfl⟩ : ∃ front c, t = front ++ [c] :=
    ⟨t.dropLast, t.getLast hne, (List.dropLast_concat_getLast hne).symm⟩
  exact dropEndWhile_eq_self (hlast c (List.getLast?_concat))

/-- A digit is not blank. -/
theorem isBlank_ofDigit (d : Digit) : (CodePoint.ofDigit d).isBlank = false := by
  revert d
  decide

/-! ## §3. Whole numbers. -/

theorem ofChar_digitChar (d : Digit) : CodePoint.ofChar (Nat.digitChar d.val) = .ofDigit d := by
  revert d
  decide

/-- A number in decimal is written with the digits of that number, and with no more of them than
it takes. -/
theorem ofNat_eq_ofDigits (n : Nat) :
    ∃ ds, Text.ofNat n = Text.ofDigits ds ∧ number ds = n ∧ ds ≠ []
      ∧ ds.length = (Nat.toDigits 10 n).length := by
  induction n using Nat.strongRecOn with
  | ind n ih =>
    unfold Text.ofNat
    rw [Nat.toDigits_eq_if (by decide)]
    by_cases hn : n < 10
    · rw [if_pos hn]
      refine ⟨[⟨n, hn⟩], ?_, ?_, by simp, rfl⟩
      · rw [List.map_singleton, ofChar_digitChar ⟨n, hn⟩]
        rfl
      · show 10 * 0 + n = n
        omega
    -- the last digit is the remainder, those before it write the quotient
    · rw [if_neg hn]
      obtain ⟨ds, htext, hnumber, -, hlength⟩ := ih (n / 10) (by omega)
      refine ⟨ds ++ [⟨n % 10, by omega⟩], ?_, ?_, by simp, ?_⟩
      · rw [List.map_append, List.map_singleton, ofChar_digitChar ⟨n % 10, by omega⟩]
        unfold Text.ofNat at htext
        rw [htext, Text.ofDigits, Text.ofDigits, List.map_append, List.map_singleton]
      · rw [number_append_singleton, hnumber]
        show 10 * (n / 10) + n % 10 = n
        omega
      · rw [List.length_append, List.length_append, hlength, List.length_singleton,
          List.length_singleton]

theorem ofDigit_ne_underscore (d : Digit) : CodePoint.ofDigit d ≠ CodePoint.ofChar '_' := by
  revert d
  decide

theorem ofDigit_ne_sign (d : Digit) :
    CodePoint.ofDigit d ≠ CodePoint.ofChar '-' ∧ CodePoint.ofDigit d ≠ CodePoint.ofChar '+' := by
  revert d
  decide

theorem groupedDigits?_ofDigits {ds : List Digit} (h : ds ≠ []) :
    groupedDigits? (ofDigits ds) = some ds := by
  induction ds with
  | nil => exact absurd rfl h
  | cons d ds ih =>
    rw [ofDigits_cons]
    cases ds with
    | nil =>
      unfold groupedDigits?
      rw [CodePoint.decimalDigit?_ofDigit]
      rfl
    | cons d' ds =>
      have hrest := ih (by simp)
      rw [ofDigits_cons] at hrest ⊢
      unfold groupedDigits?
      rw [CodePoint.decimalDigit?_ofDigit]
      simp only [if_neg (ofDigit_ne_underscore d'), hrest]
      rfl

theorem takeSign_ofDigits (ds : List Digit) : takeSign (ofDigits ds) = (false, ofDigits ds) := by
  cases ds with
  | nil => rfl
  | cons d ds =>
    rw [ofDigits_cons, takeSign, if_neg (ofDigit_ne_sign d).1, if_neg (ofDigit_ne_sign d).2]

/-- Written digits with or without a sign have no blanks at their ends. -/
theorem trimNumber_ofDigits (sign : Text) {ds : List Digit} (h : ds ≠ [])
    (hblank : ∀ c ∈ sign, c.isNumberBlank = false) :
    trimNumber (sign ++ ofDigits ds) = sign ++ ofDigits ds := by
  have hdigit (d : Digit) : (CodePoint.ofDigit d).isNumberBlank = false := by
    rw [Bool.eq_false_iff]
    intro hb
    exact absurd (CodePoint.isBlank_of_isNumberBlank hb) (by simp [isBlank_ofDigit d])
  have hall : ∀ c ∈ sign ++ ofDigits ds, c.isNumberBlank = false := by
    intro c hc
    rcases List.mem_append.mp hc with hc | hc
    · exact hblank c hc
    · obtain ⟨d, -, rfl⟩ := List.mem_map.mp hc
      exact hdigit d
  refine trimWhile_eq_self ?_ ?_ ?_
  · intro hnil
    exact h (List.map_eq_nil_iff.mp (List.append_eq_nil_iff.mp hnil).2)
  · exact fun c hc => hall c (List.mem_of_mem_head? hc)
  · exact fun c hc => hall c (List.mem_of_getLast? hc)

/-- A sign and digits, not too many, are read as the number that they write. -/
theorem readInt?_sign_ofDigits (sign : Text) {negative : Bool} {ds : List Digit} (h : ds ≠ [])
    (hblank : ∀ c ∈ sign, c.isNumberBlank = false)
    (hsign : takeSign (sign ++ ofDigits ds) = (negative, ofDigits ds))
    (hlimit : ds.length ≤ digitLimit) :
    readInt? (sign ++ ofDigits ds) = some (signed negative (number ds)) := by
  unfold readInt?
  rw [trimNumber_ofDigits sign h hblank, hsign]
  simp only [groupedDigits?_ofDigits h, if_pos hlimit]

/-- **An integer in decimal is read as that integer**, unless it has more digits than are read. -/
theorem readInt?_ofInt {n : Int} (h : n.natAbs < 10 ^ digitLimit) :
    readInt? (ofInt n) = some n := by
  have hlimit {m : Nat} (hm : m < 10 ^ digitLimit) : (Nat.toDigits 10 m).length ≤ digitLimit :=
    (Nat.length_toDigits_le_iff (by decide) (by decide)).mpr hm
  match n with
  | .ofNat m =>
    obtain ⟨ds, htext, hnumber, hne, hlength⟩ := ofNat_eq_ofDigits m
    show readInt? (ofNat m) = _
    have hread := readInt?_sign_ofDigits [] hne (List.forall_mem_nil _)
      (takeSign_ofDigits ds) (hlength ▸ hlimit h)
    rw [htext, ← List.nil_append (ofDigits ds), hread, hnumber]
    rfl
  | .negSucc m =>
    obtain ⟨ds, htext, hnumber, hne, hlength⟩ := ofNat_eq_ofDigits (m + 1)
    show readInt? ([CodePoint.ofChar '-'] ++ ofNat (m + 1)) = _
    have hminus : ∀ c ∈ [CodePoint.ofChar '-'], c.isNumberBlank = false := by
      intro c hc
      rw [List.mem_singleton.mp hc]
      decide
    have hsign : takeSign ([CodePoint.ofChar '-'] ++ ofDigits ds) = (true, ofDigits ds) := by
      rw [List.singleton_append, takeSign, if_pos rfl]
    rw [htext, readInt?_sign_ofDigits _ hne hminus hsign (hlength ▸ hlimit h), hnumber]
    rfl

end Text

end JobWatch
