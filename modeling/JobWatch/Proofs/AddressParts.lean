/-
  JobWatch.Proofs.AddressParts
  ────────────────────────────
  **ADDRESSES ARE TAKEN APART AT THEIR MARKS.**

  A text is taken apart into scheme, authority, path, query and fragment, and
  nothing is lost if it has the first two.  Putting parts together again is
  undone by taking them apart, as long as no part has a mark that ends it:

      Parts.ofText_text — parts that are put together are found again
      Parts.text_ofText — what has a scheme and an authority is put together
                          from its parts
      Parts.extend      — what is written behind the text stands in the last
                          part
-/
import JobWatch.Proofs.TextPieces
import JobWatch.Uri.Address

namespace JobWatch

namespace Address

/-! ## §1. Taking a text apart. -/

/-- The parts of the text of an address, before they are brought into normal form. -/
structure Parts where
  scheme : Text
  authority : Text
  path : Text
  query : Option Text
  fragment : Option Text

/-- A part that may be absent, behind its mark. -/
def marked (c : CodePoint) : Option Text → Text
  | none => []
  | some t => c :: t

/-- The path of an address that names a host: empty, or from the root. -/
def Rooted (path : Text) : Prop := path = [] ∨ ∃ rest, path = CodePoint.ofChar '/' :: rest

namespace Parts

/-- The parts of a text. -/
def ofText (t : Text) : Parts :=
  let afterScheme := (takeScheme t).2
  let afterAuthority := (takeAuthority afterScheme).2
  let afterPath := (upTo [0x3F, 0x23] afterAuthority).2
  let afterQuery := (takeMarked '?' [0x23] afterPath).2
  { scheme := (takeScheme t).1
    authority := (takeAuthority afterScheme).1
    path := (upTo [0x3F, 0x23] afterAuthority).1
    query := (takeMarked '?' [0x23] afterPath).1
    fragment := (takeMarked '#' [] afterQuery).1 }

/-- The text of the parts. -/
def text (p : Parts) : Text :=
  p.scheme ++ CodePoint.ofChar ':' :: CodePoint.ofChar '/' :: CodePoint.ofChar '/'
    :: (p.authority ++ (p.path ++ (marked '?' p.query ++ marked '#' p.fragment)))

/-- No part has a mark that ends it. -/
structure Proper (p : Parts) : Prop where
  scheme_head : ∃ c rest, p.scheme = c :: rest ∧ c.isLetter = true
  scheme_marks : ∀ c ∈ p.scheme, isSchemeMark c = true
  authority_marks : ∀ c ∈ p.authority, ([0x2F, 0x3F, 0x23] : List Nat).contains c.val = false
  path_rooted : Rooted p.path
  path_marks : ∀ c ∈ p.path, ([0x3F, 0x23] : List Nat).contains c.val = false
  query_marks : ∀ q ∈ p.query, ∀ c ∈ q, ([0x23] : List Nat).contains c.val = false

end Parts

theorem read_eq (t : Text) :
    read t = if admits t then
        ofParts (Parts.ofText t).scheme (Parts.ofText t).authority (Parts.ofText t).path
          (Parts.ofText t).query (Parts.ofText t).fragment
      else .error .invalid := rfl

/-- Only what is short enough is read. -/
theorem length_le_of_read {t : Text} {a : Address} (h : read t = .ok a) :
    t.length ≤ lengthLimit := by
  rw [read_eq] at h
  split at h
  next hadmits =>
    unfold admits at hadmits
    rw [Bool.and_eq_true, decide_eq_true_eq] at hadmits
    exact hadmits.1
  next => exact absurd h (by simp)

/-- A run of characters that are no stops ends before a stop, or at the end of the text. -/
theorem upTo_append {stops : List Nat} {run rest : Text}
    (hrun : ∀ c ∈ run, stops.contains c.val = false)
    (hrest : rest = [] ∨ ∃ c more, rest = c :: more ∧ stops.contains c.val = true) :
    upTo stops (run ++ rest) = (run, rest) := by
  have hpass : ∀ c ∈ run, (fun c : CodePoint => !stops.contains c.val) c = true := by
    intro c hc
    simp only [hrun c hc, Bool.not_false]
  have hend : ∀ c ∈ rest.head?, (fun c : CodePoint => !stops.contains c.val) c = false := by
    intro d hd
    rcases hrest with rfl | ⟨c, more, rfl, hc⟩
    · exact absurd hd (by simp)
    · obtain rfl : c = d := Option.some.inj hd
      simp only [hc, Bool.not_true]
  unfold upTo
  rw [Text.takeWhile_run hpass hend, Text.dropWhile_run hpass hend]

theorem upTo_nil (t : Text) : upTo [] t = (t, []) := by
  have h : upTo [] (t ++ []) = (t, []) := upTo_append (fun _ _ => rfl) (Or.inl rfl)
  rwa [List.append_nil] at h

theorem takeMarked_cons_self (c : CodePoint) (stops : List Nat) (rest : Text) :
    takeMarked c stops (c :: rest) = (some (upTo stops rest).1, (upTo stops rest).2) := if_pos rfl

theorem takeMarked_cons_ne {c d : CodePoint} (stops : List Nat) (h : d ≠ c) (rest : Text) :
    takeMarked c stops (d :: rest) = (none, d :: rest) := if_neg h

theorem takeScheme_append {c : CodePoint} {more : Text} (hc : c.isLetter = true)
    (hmarks : ∀ d ∈ c :: more, isSchemeMark d = true) (rest : Text) :
    takeScheme (c :: more ++ CodePoint.ofChar ':' :: rest) = (c :: more, rest) := by
  have hend : ∀ d ∈ (CodePoint.ofChar ':' :: rest).head?, isSchemeMark d = false := by
    intro d hd
    obtain rfl : CodePoint.ofChar ':' = d := Option.some.inj hd
    decide
  have hrun : (c :: more ++ CodePoint.ofChar ':' :: rest).takeWhile isSchemeMark = c :: more :=
    Text.takeWhile_run hmarks hend
  have hdrop : (c :: more ++ CodePoint.ofChar ':' :: rest).drop (c :: more).length
      = CodePoint.ofChar ':' :: rest := List.drop_left
  show takeScheme (c :: (more ++ CodePoint.ofChar ':' :: rest)) = _
  unfold takeScheme
  rw [List.cons_append] at hrun hdrop
  simp only [if_pos hc, hrun, hdrop, if_true]

/-- **Parts that are put together are found again.** -/
theorem Parts.ofText_text {p : Parts} (h : p.Proper) : Parts.ofText p.text = p := by
  obtain ⟨scheme, authority, path, query, fragment⟩ := p
  obtain ⟨⟨c, more, hscheme, hc⟩, hmarks, hauthority, hhead, hpath, hquery⟩ := h
  simp only at hscheme hmarks hauthority hhead hpath hquery
  subst hscheme
  have hslash : ∀ c : CodePoint, c = CodePoint.ofChar '/' →
      ([0x2F, 0x3F, 0x23] : List Nat).contains c.val = true := by
    rintro c rfl
    decide
  -- behind the path stands a mark of a query or of a fragment, or nothing
  have hbehind : marked '?' query ++ marked '#' fragment = [] ∨ ∃ c more,
      marked '?' query ++ marked '#' fragment = c :: more
        ∧ ([0x3F, 0x23] : List Nat).contains c.val = true := by
    cases query with
    | some q => exact Or.inr ⟨_, _, rfl, by decide⟩
    | none =>
      cases fragment with
      | some f => exact Or.inr ⟨_, _, rfl, by decide⟩
      | none => exact Or.inl rfl
  have hfragment : marked '#' fragment = [] ∨ ∃ c more, marked '#' fragment = c :: more
      ∧ ([0x23] : List Nat).contains c.val = true := by
    cases fragment with
    | some f => exact Or.inr ⟨_, _, rfl, by decide⟩
    | none => exact Or.inl rfl
  have htail : path ++ (marked '?' query ++ marked '#' fragment) = [] ∨ ∃ c more,
      path ++ (marked '?' query ++ marked '#' fragment) = c :: more
        ∧ ([0x2F, 0x3F, 0x23] : List Nat).contains c.val = true := by
    rcases hhead with rfl | ⟨rest, rfl⟩
    · refine hbehind.imp id ?_
      rintro ⟨c, more, heq, hstop⟩
      refine ⟨c, more, heq, ?_⟩
      rw [List.contains_cons, hstop, Bool.or_true]
    · exact Or.inr ⟨_, _, rfl, hslash _ rfl⟩
  have h1 := takeScheme_append hc hmarks (CodePoint.ofChar '/' :: CodePoint.ofChar '/'
    :: (authority ++ (path ++ (marked '?' query ++ marked '#' fragment))))
  have h2 : takeAuthority (CodePoint.ofChar '/' :: CodePoint.ofChar '/'
      :: (authority ++ (path ++ (marked '?' query ++ marked '#' fragment))))
      = (authority, path ++ (marked '?' query ++ marked '#' fragment)) := by
    rw [takeAuthority, if_pos ⟨rfl, rfl⟩]
    exact upTo_append hauthority htail
  have h3 := upTo_append hpath hbehind
  have h4 : takeMarked '?' [0x23] (marked '?' query ++ marked '#' fragment)
      = (query, marked '#' fragment) := by
    cases query with
    | none => cases fragment <;> rfl
    | some q =>
      show takeMarked '?' [0x23] (CodePoint.ofChar '?' :: (q ++ marked '#' fragment)) = _
      rw [takeMarked_cons_self, upTo_append (hquery q rfl) hfragment]
  have h5 : takeMarked '#' [] (marked '#' fragment) = (fragment, []) := by
    cases fragment with
    | none => rfl
    | some f =>
      show takeMarked '#' [] (CodePoint.ofChar '#' :: f) = _
      rw [takeMarked_cons_self, upTo_nil]
  unfold Parts.ofText Parts.text
  simp only [h1, h2, h3, h4, h5]

theorem upTo_spec (stops : List Nat) (t : Text) :
    t = (upTo stops t).1 ++ (upTo stops t).2
      ∧ (∀ c ∈ (upTo stops t).1, stops.contains c.val = false)
      ∧ ((upTo stops t).2 = [] ∨ ∃ c more, (upTo stops t).2 = c :: more
          ∧ stops.contains c.val = true) := by
  refine ⟨(List.takeWhile_append_dropWhile).symm, ?_, ?_⟩
  · intro c hc
    have hpass := List.all_eq_true.mp List.all_takeWhile c hc
    rwa [Bool.not_eq_true'] at hpass
  · cases hrest : (upTo stops t).2 with
    | nil => exact Or.inl rfl
    | cons c more =>
      refine Or.inr ⟨c, more, rfl, ?_⟩
      have hdrop : t.dropWhile (fun c : CodePoint => !stops.contains c.val) = c :: more := hrest
      have hstop := Text.head_dropWhile (congrArg List.head? hdrop)
      rwa [Bool.not_eq_false'] at hstop

theorem takeScheme_spec {t : Text} (h : (takeScheme t).1 ≠ []) :
    t = (takeScheme t).1 ++ CodePoint.ofChar ':' :: (takeScheme t).2
      ∧ (∃ c rest, (takeScheme t).1 = c :: rest ∧ c.isLetter = true)
      ∧ ∀ c ∈ (takeScheme t).1, isSchemeMark c = true := by
  cases t with
  | nil => exact absurd rfl h
  | cons c rest =>
    unfold takeScheme at h ⊢
    by_cases hc : c.isLetter = true
    · simp only [if_pos hc] at h ⊢
      have hmark : isSchemeMark c = true := by
        unfold isSchemeMark
        rw [hc, Bool.true_or, Bool.true_or, Bool.true_or, Bool.true_or]
      have hsplit : (c :: rest).takeWhile isSchemeMark
          ++ (c :: rest).drop ((c :: rest).takeWhile isSchemeMark).length = c :: rest :=
        (List.prefix_iff_eq_append.mp (List.takeWhile_prefix isSchemeMark))
      cases hdrop : (c :: rest).drop ((c :: rest).takeWhile isSchemeMark).length with
      | nil =>
        rw [hdrop] at h
        exact absurd rfl h
      | cons d behind =>
        rw [hdrop] at h hsplit
        simp only at h ⊢
        by_cases hd : d = CodePoint.ofChar ':'
        · rw [if_pos hd]
          subst hd
          exact ⟨hsplit.symm, ⟨c, _, List.takeWhile_cons_of_pos hmark, hc⟩,
            List.all_eq_true.mp List.all_takeWhile⟩
        · rw [if_neg hd] at h
          exact absurd rfl h
    -- without a letter in front there is no scheme
    · simp only [if_neg hc, List.length_nil, List.drop_zero] at h
      split at h <;> exact absurd rfl h

theorem takeAuthority_spec {t : Text} (h : (takeAuthority t).1 ≠ []) :
    ∃ rest, t = CodePoint.ofChar '/' :: CodePoint.ofChar '/' :: rest
      ∧ takeAuthority t = upTo [0x2F, 0x3F, 0x23] rest := by
  match t with
  | [] => exact absurd rfl h
  | [a] => exact absurd rfl h
  | a :: b :: rest =>
    rw [takeAuthority] at h ⊢
    by_cases hab : a = CodePoint.ofChar '/' ∧ b = CodePoint.ofChar '/'
    · obtain ⟨rfl, rfl⟩ := hab
      exact ⟨rest, rfl, if_pos ⟨rfl, rfl⟩⟩
    · rw [if_neg hab] at h
      exact absurd rfl h

theorem takeMarked_spec (c : CodePoint) (stops : List Nat) (t : Text) :
    t = marked c (takeMarked c stops t).1 ++ (takeMarked c stops t).2
      ∧ ∀ q ∈ (takeMarked c stops t).1, ∀ d ∈ q, stops.contains d.val = false := by
  cases t with
  | nil => exact ⟨rfl, fun q hq => absurd hq (by simp [takeMarked])⟩
  | cons d rest =>
    by_cases hd : d = c
    · subst hd
      obtain ⟨hsplit, hfree, -⟩ := upTo_spec stops rest
      rw [takeMarked_cons_self]
      refine ⟨congrArg (d :: ·) hsplit, ?_⟩
      intro q hq
      obtain rfl := Option.some.inj hq
      exact hfree
    · rw [takeMarked_cons_ne stops hd]
      exact ⟨rfl, fun q hq => absurd hq (by simp)⟩

theorem eq_ofChar_of_val {c : CodePoint} {m : Char} (h : c.val = (CodePoint.ofChar m).val) :
    c = CodePoint.ofChar m := by
  cases c
  cases hm : CodePoint.ofChar m
  rw [hm] at h
  simp only at h
  subst h
  rfl

/-- Behind a query and a fragment there is nothing more. -/
theorem takeMarked_ends {t : Text} (ht : t = [] ∨ ∃ c more, t = c :: more
      ∧ ([0x3F, 0x23] : List Nat).contains c.val = true) :
    (takeMarked '#' [] (takeMarked '?' [0x23] t).2).2 = [] := by
  have hfragment : ∀ more, (takeMarked '#' [] (CodePoint.ofChar '#' :: more)).2 = [] := by
    intro more
    rw [takeMarked_cons_self, upTo_nil]
  rcases ht with rfl | ⟨c, more, rfl, hstop⟩
  · rfl
  simp only [List.contains_cons, List.contains_nil, Bool.or_false, Bool.or_eq_true,
    beq_iff_eq] at hstop
  rcases hstop with hquestion | hhash
  · obtain rfl := eq_ofChar_of_val (m := '?') hquestion
    rw [takeMarked_cons_self]
    obtain ⟨-, -, hnil | ⟨d, behind, hd, hstop⟩⟩ := upTo_spec [0x23] more
    · rw [hnil]
      rfl
    · simp only [List.contains_cons, List.contains_nil, Bool.or_false, beq_iff_eq] at hstop
      obtain rfl := eq_ofChar_of_val (m := '#') hstop
      rw [hd]
      exact hfragment behind
  · obtain rfl := eq_ofChar_of_val (m := '#') hhash
    rw [takeMarked_cons_ne _ (by decide)]
    exact hfragment more

/-- **What has a scheme and an authority is put together from its parts.** -/
theorem Parts.text_ofText {t : Text} (hscheme : (Parts.ofText t).scheme ≠ [])
    (hauthority : (Parts.ofText t).authority ≠ []) :
    (Parts.ofText t).Proper ∧ (Parts.ofText t).text = t := by
  obtain ⟨h1, hhead, hmarks⟩ := takeScheme_spec hscheme
  obtain ⟨behind, hslashes, htake⟩ := takeAuthority_spec hauthority
  obtain ⟨h2, hfree2, hstop2⟩ := upTo_spec [0x2F, 0x3F, 0x23] behind
  rw [← htake] at h2 hfree2 hstop2
  obtain ⟨h3, hfree3, hstop3⟩ :=
    upTo_spec [0x3F, 0x23] (takeAuthority (takeScheme t).2).2
  obtain ⟨h4, hfree4⟩ :=
    takeMarked_spec '?' [0x23] (upTo [0x3F, 0x23] (takeAuthority (takeScheme t).2).2).2
  obtain ⟨h5, -⟩ := takeMarked_spec '#' []
    (takeMarked '?' [0x23] (upTo [0x3F, 0x23] (takeAuthority (takeScheme t).2).2).2).2
  rw [takeMarked_ends hstop3, List.append_nil] at h5
  -- a path begins where the authority ends, and so at a slash
  have hpath : Rooted (Parts.ofText t).path := by
    show Rooted (upTo [0x3F, 0x23] (takeAuthority (takeScheme t).2).2).1
    cases hp : (upTo [0x3F, 0x23] (takeAuthority (takeScheme t).2).2).1 with
    | nil => exact Or.inl rfl
    | cons c rest =>
      rw [hp] at h3 hfree3
      rcases hstop2 with hnil | ⟨d, more, hd, hstop⟩
      · rw [hnil] at h3
        exact absurd h3 (by simp)
      · rw [hd] at h3
        obtain ⟨rfl, -⟩ := List.cons.inj h3
        have hfree := hfree3 d List.mem_cons_self
        simp only [List.contains_cons, List.contains_nil, Bool.or_false, Bool.or_eq_true,
          Bool.or_eq_false_iff, beq_iff_eq, beq_eq_false_iff_ne] at hstop hfree
        refine Or.inr ⟨rest, ?_⟩
        have hval : d.val = 0x2F := by
          rcases hstop with h | h | h
          · exact h
          · exact absurd h hfree.1
          · exact absurd h hfree.2
        rw [eq_ofChar_of_val (m := '/') hval]
  refine ⟨⟨hhead, hmarks, hfree2, hpath, hfree3, hfree4⟩, ?_⟩
  unfold Parts.text Parts.ofText
  simp only
  rw [← h5, ← h4, ← h3, ← h2, ← hslashes, ← h1]

/-! ## §2. Writing behind the text. -/

namespace Parts

/-- The parts with a text behind the last of them. -/
def extend (p : Parts) (x : Text) : Parts :=
  match p.fragment, p.query with
  | some f, _ => { p with fragment := some (f ++ x) }
  | none, some q => { p with query := some (q ++ x) }
  | none, none => { p with path := p.path ++ x }

/-- The scheme and the authority stay. -/
theorem extend_eq (p : Parts) (x : Text) : p.extend x = { p with
    path := (p.extend x).path
    query := (p.extend x).query
    fragment := (p.extend x).fragment } := by
  unfold extend
  split <;> rfl

theorem text_extend (p : Parts) (x : Text) : (p.extend x).text = p.text ++ x := by
  obtain ⟨scheme, authority, path, query, fragment⟩ := p
  cases fragment with
  | some f => simp [extend, text, marked]
  | none =>
    cases query with
    | some q => simp [extend, text, marked]
    | none => simp [extend, text, marked]

variable {p : Parts} {x : Text}

theorem Proper.extend (h : p.Proper) (hhead : ∃ rest, x = CodePoint.ofChar '/' :: rest)
    (hfree : ∀ c ∈ x, ([0x3F, 0x23] : List Nat).contains c.val = false) :
    (p.extend x).Proper := by
  obtain ⟨scheme, authority, path, query, fragment⟩ := p
  obtain ⟨hscheme, hmarks, hauthority, hrooted, hpath, hquery⟩ := h
  cases fragment with
  | some f => exact ⟨hscheme, hmarks, hauthority, hrooted, hpath, hquery⟩
  | none =>
    cases query with
    | some q =>
      refine ⟨hscheme, hmarks, hauthority, hrooted, hpath, ?_⟩
      rintro _ ⟨⟩ c hc
      rcases List.mem_append.mp hc with hc | hc
      · exact hquery q rfl c hc
      · have hmark := hfree c hc
        rw [List.contains_cons, Bool.or_eq_false_iff] at hmark
        exact hmark.2
    | none =>
      refine ⟨hscheme, hmarks, hauthority, ?_, ?_, hquery⟩
      · obtain ⟨rest, rfl⟩ := hhead
        show Rooted (path ++ CodePoint.ofChar '/' :: rest)
        rcases hrooted with hnil | ⟨more, hmore⟩
        · simp only at hnil
          rw [hnil]
          exact Or.inr ⟨rest, rfl⟩
        · simp only at hmore
          rw [hmore]
          exact Or.inr ⟨_, rfl⟩
      · intro c hc
        rcases List.mem_append.mp hc with hc | hc
        · exact hpath c hc
        · exact hfree c hc

/-- What stands behind the host is part of the text. -/
theorem mem_text {c : CodePoint}
    (h : c ∈ p.path ∨ c ∈ p.query.getD [] ∨ c ∈ p.fragment.getD []) : c ∈ p.text := by
  obtain ⟨scheme, authority, path, query, fragment⟩ := p
  unfold text
  simp only [List.mem_append, List.mem_cons] at h ⊢
  refine Or.inr (Or.inr (Or.inr (Or.inr (Or.inr ?_))))
  rcases h with h | h | h
  · exact Or.inl h
  · cases query with
    | none => exact absurd h List.not_mem_nil
    | some q => exact Or.inr (Or.inl (List.mem_cons_of_mem _ h))
  · cases fragment with
    | none => exact absurd h List.not_mem_nil
    | some f => exact Or.inr (Or.inr (List.mem_cons_of_mem _ h))

end Parts

end Address

end JobWatch
