/-
  JobWatch.Proofs.AddressNormal
  ─────────────────────────────
  **ADDRESSES IN NORMAL FORM.**

  Each part of an address is brought into its normal form by itself; only
  whether the path fits depends on whether there is a host.  So behind a host
  path, query and fragment can be changed freely, and every one of them comes
  out in visible characters:

      ofParts_eq_ok_iff — the address is the normal form of the parts
      normalPath_rooted — a path from the root stays at the root
      withQuery_behind  — with another query nothing else changes
      read_append_eq    — what is written behind an address, and what comes
                          of it
      read_append       — it leaves the host alone
-/
import JobWatch.Proofs.AddressParts
import JobWatch.Proofs.Outcomes
import JobWatch.Proofs.PercentRoundTrip

namespace JobWatch

namespace Address

/-! ## §1. The normal form of the parts. -/

/-- The port that an authority writes behind its host. -/
def portText (authority : Text) : Text :=
  let behind := (takeHost (takeUserInfo authority).2).2
  if behind.head? = some (CodePoint.ofChar ':') then behind.drop 1 else behind

/-- The address names a user, a host or a port. -/
def hasAuthority (a : Address) : Bool := !a.userInfo.isEmpty || !a.host.isEmpty || a.port.isSome

/-- `a` is the normal form of the parts, each of which has one. -/
structure Normalizes (p : Parts) (a : Address) : Prop where
  userInfo : Component.quote Component.barredInUserInfo (takeUserInfo p.authority).1
    = .ok a.userInfo
  host : Host.normal (takeHost (takeUserInfo p.authority).2).1 = .ok a.host
  port : normalPort p.scheme (portText p.authority) = .ok a.port
  fits : pathFits (!p.scheme.isEmpty) a.hasAuthority p.path = true
  path : Component.quote Component.barredInPath
    (if !p.scheme.isEmpty || a.hasAuthority then normalPath p.path else p.path) = .ok a.path
  query : Component.quote? Component.barredInQuery p.query = .ok a.query
  fragment : Component.quote? Component.barredInFragment p.fragment = .ok a.fragment
  scheme : a.scheme = p.scheme.map CodePoint.toLower

/-- **The address of the parts is their normal form.** -/
theorem ofParts_eq_ok_iff (p : Parts) (a : Address) :
    ofParts p.scheme p.authority p.path p.query p.fragment = .ok a ↔ Normalizes p a := by
  unfold ofParts
  simp only [bind, bind_eq_ok_iff]
  constructor
  · rintro ⟨userInfo, huser, host, hhost, port, hport, h⟩
    split at h
    next hfits =>
      rw [bind_eq_ok_iff] at h
      obtain ⟨path, hpath, h⟩ := h
      rw [bind_eq_ok_iff] at h
      obtain ⟨query, hquery, h⟩ := h
      rw [bind_eq_ok_iff] at h
      obtain ⟨fragment, hfragment, h⟩ := h
      obtain rfl := Except.ok.inj h
      exact ⟨huser, hhost, hport, hfits, hpath, hquery, hfragment, rfl⟩
    next => exact absurd h (by simp)
  · rintro ⟨huser, hhost, hport, hfits, hpath, hquery, hfragment, hscheme⟩
    refine ⟨a.userInfo, huser, a.host, hhost, a.port, hport, ?_⟩
    have hfits' : pathFits (!p.scheme.isEmpty)
        (!a.userInfo.isEmpty || !a.host.isEmpty || a.port.isSome) p.path = true := hfits
    rw [if_pos hfits', bind_eq_ok_iff]
    refine ⟨a.path, hpath, ?_⟩
    rw [bind_eq_ok_iff]
    refine ⟨a.query, hquery, ?_⟩
    rw [bind_eq_ok_iff]
    refine ⟨a.fragment, hfragment, ?_⟩
    rw [← hscheme]
    rfl

/-! ## §2. Quoting. -/

/-- A visible ASCII character. -/
def isVisible (c : CodePoint) : Bool := c.within 0x21 0x7E

theorem quote_eq_ok_iff {barred : List Nat} {t q : Text} :
    Component.quote barred t = .ok q
      ↔ t.isScalar = true ∧ q = Percent.quote (Percent.keeps barred) t := by
  unfold Component.quote
  by_cases h : t.isScalar = true
  · rw [if_pos h]
    exact ⟨fun hq => ⟨h, (Except.ok.inj hq).symm⟩, fun hq => congrArg _ hq.2.symm⟩
  · rw [if_neg h]
    exact ⟨fun hq => absurd hq (by simp), fun hq => absurd hq.1 h⟩

theorem quote?_eq_ok {barred : List Nat} {t : Option Text} (h : (t.getD []).isScalar = true) :
    Component.quote? barred t = .ok (t.map (Percent.quote (Percent.keeps barred))) := by
  cases t with
  | none => rfl
  | some x =>
    have hquote : Component.quote barred x = _ := quote_eq_ok_iff.mpr ⟨h, rfl⟩
    show (Component.quote barred x).map some = _
    rw [hquote]
    rfl

theorem isVisible_of_isEncodingMark {c : CodePoint} (h : Percent.isEncodingMark c = true) :
    isVisible c = true := by
  simp only [Percent.isEncodingMark, Percent.isUnreserved, CodePoint.isLetter,
    CodePoint.isAsciiDigit, CodePoint.within, Bool.or_eq_true, Bool.and_eq_true,
    decide_eq_true_eq, beq_iff_eq] at h
  simp only [isVisible, CodePoint.within, Bool.and_eq_true, decide_eq_true_eq]
  rcases h with h | rfl
  · omega
  · decide

theorem isVisible_of_hexValue? {c : CodePoint} (h : c.hexValue?.isSome = true) :
    isVisible c = true := by
  simp only [isVisible, CodePoint.within, Bool.and_eq_true, decide_eq_true_eq]
  unfold CodePoint.hexValue? at h
  by_cases hdigit : c.within 0x30 0x39 = true
  · simp only [CodePoint.within, Bool.and_eq_true, decide_eq_true_eq] at hdigit
    omega
  by_cases hcapital : c.within 0x41 0x46 = true
  · simp only [CodePoint.within, Bool.and_eq_true, decide_eq_true_eq] at hcapital
    omega
  by_cases hsmall : c.within 0x61 0x66 = true
  · simp only [CodePoint.within, Bool.and_eq_true, decide_eq_true_eq] at hsmall
    omega
  · rw [if_neg hdigit, if_neg hcapital, if_neg hsmall] at h
    exact absurd h (by decide)

/-- **A quoted component is visible.** -/
theorem isVisible_of_mem_quote {barred : List Nat} {t : Text} {d : CodePoint}
    (h : d ∈ Percent.quote (Percent.keeps barred) t) : isVisible d = true := by
  have hone : ∀ c, d ∈ (if Percent.keeps barred c then [c] else Percent.escapeOne c) →
      isVisible d = true := by
    intro c hc
    split at hc
    next hsafe =>
      rw [List.mem_singleton.mp hc]
      unfold Percent.keeps at hsafe
      rw [Bool.and_eq_true] at hsafe
      exact hsafe.1
    next => exact isVisible_of_isEncodingMark (Percent.isEncodingMark_of_mem_escapeOne hc)
  -- an escape that is there stays as it is; every other character is kept or escaped by itself
  induction t using Percent.quote.induct (Percent.keeps barred) with
  | case1 => exact absurd h (by simp [Percent.quote])
  | case2 high low more hhex ih =>
    rw [Percent.quote, if_pos rfl, if_pos hhex] at h
    rw [Bool.and_eq_true] at hhex
    rcases List.mem_cons.mp h with rfl | h
    · decide
    rcases List.mem_cons.mp h with rfl | h
    · exact isVisible_of_hexValue? hhex.1
    rcases List.mem_cons.mp h with rfl | h
    · exact isVisible_of_hexValue? hhex.2
    exact ih h
  | case3 high low more hhex ih =>
    rw [Percent.quote, if_pos rfl, if_neg hhex] at h
    rcases List.mem_append.mp h with h | h
    · exact hone _ h
    · exact ih h
  | case4 digit ih =>
    rw [Percent.quote, if_pos rfl] at h
    rcases List.mem_append.mp h with h | h
    · exact hone _ h
    · exact ih h
  | case5 hsafe =>
    rw [Percent.quote, if_pos rfl] at h
    exact hone _ h
  | case6 hbarred =>
    rw [Percent.quote, if_pos rfl] at h
    exact hone _ h
  | case7 c rest hc ih =>
    rw [Percent.quote.eq_def] at h
    simp only [if_neg hc] at h
    rcases List.mem_append.mp h with h | h
    · exact hone _ h
    · exact ih h

theorem isScalar_of_visible {t : Text} (h : ∀ c ∈ t, isVisible c = true) : t.isScalar = true := by
  unfold Text.isScalar
  rw [List.all_eq_true]
  intro c hc
  have hvisible := h c hc
  simp only [isVisible, CodePoint.within, Bool.and_eq_true, decide_eq_true_eq] at hvisible
  simp only [CodePoint.isSurrogate, CodePoint.within, Bool.not_eq_true', Bool.and_eq_false_iff,
    decide_eq_false_iff_not]
  omega

/-- A visible text is admitted if it is short enough. -/
theorem admits_of_visible {t : Text} (h : ∀ c ∈ t, isVisible c = true) :
    admits t = decide (t.length ≤ lengthLimit) := by
  have hcontrol : t.any isControl = false := by
    rw [List.any_eq_false]
    intro c hc
    have hvisible := h c hc
    simp only [isVisible, CodePoint.within, Bool.and_eq_true, decide_eq_true_eq] at hvisible
    simp only [isControl, Bool.or_eq_true, decide_eq_true_eq, beq_iff_eq]
    omega
  unfold admits
  rw [hcontrol, Bool.not_false, Bool.and_true]

/-! ## §3. Paths from the root. -/

theorem Rooted.quote {path : Text} (h : Rooted path) :
    Rooted (Percent.quote (Percent.keeps Component.barredInPath) path) := by
  rcases h with rfl | ⟨rest, rfl⟩
  · exact Or.inl rfl
  · refine Or.inr ⟨Percent.quote (Percent.keeps Component.barredInPath) rest, ?_⟩
    rw [Percent.quote.eq_def]
    rfl

/-- What is kept of a path from the root begins with the empty segment before its first slash. -/
theorem resolve_rooted (segments kept : List Text) :
    ∃ kept', resolve segments (kept ++ [[]]) = kept' ++ [[]] := by
  -- what is kept stands in reverse, so the first segment is the last one of it
  induction segments generalizing kept with
  | nil => exact ⟨kept, rfl⟩
  | cons s segments ih =>
    rw [resolve]
    by_cases hdot : s = [CodePoint.ofChar '.']
    · rw [if_pos hdot]
      exact ih kept
    rw [if_neg hdot]
    by_cases hdots : s = [CodePoint.ofChar '.', CodePoint.ofChar '.']
    · rw [if_pos hdots]
      cases kept with
      -- the first segment is never given up
      | nil => exact ih []
      | cons k kept =>
        rw [if_neg (by simp)]
        exact ih kept
    · rw [if_neg hdots]
      exact ih (s :: kept)

/-- **A path from the root stays at the root.** -/
theorem normalPath_rooted {path : Text} (h : Rooted path) : Rooted (normalPath path) := by
  rcases h with rfl | ⟨rest, rfl⟩
  · exact Or.inl (by decide)
  · have hsplit : Text.splitAt '/' (CodePoint.ofChar '/' :: rest) = [] :: Text.splitAt '/' rest :=
      rfl
    have hresolve : resolve ([] :: Text.splitAt '/' rest) []
        = resolve (Text.splitAt '/' rest) [[]] := rfl
    obtain ⟨kept, hkept⟩ := resolve_rooted (Text.splitAt '/' rest) []
    rw [List.nil_append] at hkept
    unfold normalPath
    rw [hsplit, hresolve, hkept, List.reverse_append]
    cases kept.reverse with
    | nil => exact Or.inl rfl
    | cons s more => exact Or.inr ⟨Text.join ['/'] (s :: more), rfl⟩

theorem mem_of_mem_splitWhere {separates : CodePoint → Bool} {t p : Text} {c : CodePoint}
    (hp : p ∈ t.splitWhere separates) (hc : c ∈ p) : c ∈ t := by
  induction t generalizing p with
  | nil =>
    rw [List.mem_singleton.mp hp] at hc
    exact absurd hc List.not_mem_nil
  | cons d t ih =>
    rw [Text.splitWhere] at hp
    by_cases hd : separates d = true
    · rw [if_pos hd] at hp
      rcases List.mem_cons.mp hp with rfl | hp
      · exact absurd hc List.not_mem_nil
      · exact List.mem_cons_of_mem _ (ih hp hc)
    · rw [if_neg hd] at hp
      cases hsplit : Text.splitWhere separates t with
      | nil =>
        rw [hsplit] at hp
        rw [List.mem_singleton.mp hp] at hc
        exact List.mem_cons.mpr (Or.inl (List.mem_singleton.mp hc))
      | cons piece pieces =>
        rw [hsplit] at hp ih
        rcases List.mem_cons.mp hp with rfl | hp
        · rcases List.mem_cons.mp hc with rfl | hc
          · exact List.mem_cons_self
          · exact List.mem_cons_of_mem _ (ih List.mem_cons_self hc)
        · exact List.mem_cons_of_mem _ (ih (List.mem_cons_of_mem _ hp) hc)

theorem mem_of_mem_join {sep : Text} {ps : List Text} {c : CodePoint} (h : c ∈ Text.join sep ps) :
    c ∈ sep ∨ ∃ p ∈ ps, c ∈ p := by
  induction ps with
  | nil => exact absurd h List.not_mem_nil
  | cons p ps ih =>
    cases ps with
    | nil => exact Or.inr ⟨p, List.mem_cons_self, h⟩
    | cons q ps =>
      rw [Text.join] at h
      · rcases List.mem_append.mp h with h | h
        · rcases List.mem_append.mp h with h | h
          · exact Or.inr ⟨p, List.mem_cons_self, h⟩
          · exact Or.inl h
        · rcases ih h with h | ⟨r, hr, hc⟩
          · exact Or.inl h
          · exact Or.inr ⟨r, List.mem_cons_of_mem _ hr, hc⟩
      · simp

/-- A segment that a path in normal form does not have. -/
def IsDotSegment (s : Text) : Prop := s = Text.ofString "." ∨ s = Text.ofString ".."

instance (s : Text) : Decidable (IsDotSegment s) := inferInstanceAs (Decidable (_ ∨ _))

/-- What a segment does to those kept so far, which stand in reverse. -/
theorem resolve_cons (s : Text) (segments kept : List Text) :
    (IsDotSegment s ∧ ∃ kept', resolve (s :: segments) kept = resolve segments kept'
        ∧ kept'.Sublist kept)
      ∨ (¬IsDotSegment s ∧ resolve (s :: segments) kept = resolve segments (s :: kept)) := by
  have hdot : ([CodePoint.ofChar '.'] : Text) = Text.ofString "." := rfl
  have hdots : ([CodePoint.ofChar '.', CodePoint.ofChar '.'] : Text) = Text.ofString ".." := rfl
  rw [resolve, hdots, hdot]
  unfold IsDotSegment
  by_cases h1 : s = Text.ofString "."
  · rw [if_pos h1]
    exact Or.inl ⟨Or.inl h1, kept, rfl, List.Sublist.refl kept⟩
  by_cases h2 : s = Text.ofString ".."
  · rw [if_neg h1, if_pos h2]
    refine Or.inl ⟨Or.inr h2, _, rfl, ?_⟩
    split
    · exact List.Sublist.refl kept
    · exact List.drop_sublist 1 kept
  · rw [if_neg h1, if_neg h2]
    exact Or.inr ⟨fun h => h.elim h1 h2, rfl⟩

/-- **Resolving takes segments away**, and changes neither those that are left nor their order. -/
theorem resolve_sublist (segments kept : List Text) :
    (resolve segments kept).Sublist (segments.reverse ++ kept) := by
  induction segments generalizing kept with
  | nil => exact List.Sublist.refl kept
  | cons s segments ih =>
    rw [List.reverse_cons, List.append_assoc, List.singleton_append]
    rcases resolve_cons s segments kept with ⟨-, kept', heq, hsub⟩ | ⟨-, heq⟩
    · rw [heq]
      exact (ih kept').trans (List.Sublist.append_left (hsub.cons s) segments.reverse)
    · rw [heq]
      exact ih (s :: kept)

theorem mem_of_mem_resolve {segments kept : List Text} {p : Text}
    (h : p ∈ resolve segments kept) : p ∈ segments ∨ p ∈ kept :=
  (List.mem_append.mp ((resolve_sublist segments kept).subset h)).imp_left List.mem_reverse.mp

/-- Resolving dot segments brings no character into a path but slashes. -/
theorem mem_of_mem_normalPath {path : Text} {c : CodePoint} (h : c ∈ normalPath path) :
    c = CodePoint.ofChar '/' ∨ c ∈ path := by
  rcases mem_of_mem_join h with h | ⟨p, hp, hc⟩
  · exact Or.inl (List.mem_singleton.mp h)
  · rcases mem_of_mem_resolve (List.mem_reverse.mp hp) with hp | hp
    · exact Or.inr (mem_of_mem_splitWhere hp hc)
    · exact absurd hp List.not_mem_nil

theorem isScalar_normalPath {path : Text} (h : path.isScalar = true) :
    (normalPath path).isScalar = true := by
  unfold Text.isScalar at *
  rw [List.all_eq_true] at *
  intro c hc
  rcases mem_of_mem_normalPath hc with rfl | hc
  · decide
  · exact h c hc

/-! ## §4. What stands behind the host. -/

theorem hasAuthority_of_isAbsolute {a : Address} (h : a.isAbsolute = true) :
    a.hasAuthority = true := by
  unfold isAbsolute at h
  unfold hasAuthority
  rw [Bool.and_eq_true] at h
  rw [h.2, Bool.or_true, Bool.true_or]

/-- **Path, query and fragment come into normal form by themselves** behind a host. -/
theorem Normalizes.behind {p : Parts} {a : Address} (h : Normalizes p a)
    (ha : a.isAbsolute = true) {path : Text} {query fragment : Option Text}
    (hroot : Rooted path) (hpath : path.isScalar = true)
    (hquery : (query.getD []).isScalar = true) (hfragment : (fragment.getD []).isScalar = true) :
    Normalizes { p with path, query, fragment }
      { a with
        path := Percent.quote (Percent.keeps Component.barredInPath) (normalPath path)
        query := query.map (Percent.quote (Percent.keeps Component.barredInQuery))
        fragment := fragment.map (Percent.quote (Percent.keeps Component.barredInFragment)) } := by
  have hauthority := hasAuthority_of_isAbsolute ha
  refine ⟨h.userInfo, h.host, h.port, ?_, ?_, quote?_eq_ok hquery, quote?_eq_ok hfragment,
    h.scheme⟩
  · show pathFits (!p.scheme.isEmpty) a.hasAuthority path = true
    rw [hauthority]
    rcases hroot with rfl | ⟨rest, rfl⟩
    · rfl
    · simp [pathFits]
  · show Component.quote Component.barredInPath
      (if !p.scheme.isEmpty || a.hasAuthority then normalPath path else path) = _
    rw [hauthority, Bool.or_true, if_pos rfl]
    exact quote_eq_ok_iff.mpr ⟨isScalar_normalPath hpath, rfl⟩

theorem isVisible_of_escaped {barred : List Nat} {t : Text}
    (h : Percent.Escaped (Percent.keeps barred) t) : ∀ c ∈ t, isVisible c = true := by
  intro c hc
  rw [← h.quote_eq_self] at hc
  exact isVisible_of_mem_quote hc

theorem map_quote_of_escaped {barred : List Nat} {part : Option Text}
    (h : ∀ t ∈ part, Percent.Escaped (Percent.keeps barred) t) :
    part.map (Percent.quote (Percent.keeps barred)) = part := by
  cases part with
  | none => rfl
  | some t => rw [Option.map_some, (h t rfl).quote_eq_self]

theorem isVisible_of_escapedPart {barred : List Nat} {part : Option Text}
    (h : ∀ t ∈ part, Percent.Escaped (Percent.keeps barred) t) :
    ∀ c ∈ part.getD [], isVisible c = true := by
  cases part with
  | none => exact fun c hc => absurd hc List.not_mem_nil
  | some t => exact isVisible_of_escaped (h t rfl)

/-- The address with a query is the normal form of its parts and the query. -/
theorem normalizes_of_withQuery {a b : Address} {query : Option Text}
    (h : a.withQuery query = .ok b) :
    admits a.authority = true
      ∧ Normalizes ⟨a.scheme, a.authority, a.path, query, a.fragment⟩ b := by
  unfold withQuery at h
  split at h
  next hadmits =>
    rw [List.all_cons, Bool.and_eq_true] at hadmits
    exact ⟨hadmits.1, (ofParts_eq_ok_iff ⟨_, _, _, _, _⟩ b).mp h⟩
  next => exact absurd h (by simp)

/-- A query that needs no escaping is taken over as it is. -/
theorem query_of_withQuery {a b : Address} {query : Option Text} (h : a.withQuery query = .ok b)
    (hquery : ∀ q ∈ query, Percent.Escaped (Percent.keeps Component.barredInQuery) q) :
    b.query = query := by
  have hnormal := (normalizes_of_withQuery h).2.query
  rw [quote?_eq_ok (isScalar_of_visible (isVisible_of_escapedPart hquery)),
    map_quote_of_escaped hquery] at hnormal
  exact (Except.ok.inj hnormal).symm

/-- **The query of a request is the one given**, if it is short enough and needs no escaping; of
the path and the fragment it depends only on their being visible and short. -/
theorem withQuery_behind {a b : Address} (h : a.withQuery none = .ok b) (hb : b.isAbsolute = true)
    {path : Text} {fragment : Option Text} (old : Option Text) (hroot : Rooted path)
    (hpath : ∀ c ∈ path, isVisible c = true) (hpathFits : path.length ≤ lengthLimit)
    (hfragment : ∀ c ∈ fragment.getD [], isVisible c = true)
    (hfragmentFits : (fragment.getD []).length ≤ lengthLimit) {query : Option Text}
    (hquery : ∀ q ∈ query, Percent.Escaped (Percent.keeps Component.barredInQuery) q) :
    ({ a with path, query := old, fragment } : Address).withQuery query
      = if (query.getD []).length ≤ lengthLimit then
          .ok { b with
            path := Percent.quote (Percent.keeps Component.barredInPath) (normalPath path)
            query
            fragment := fragment.map (Percent.quote (Percent.keeps Component.barredInFragment)) }
        else .error .invalid := by
  -- the authority is admitted for any query as it is for none
  obtain ⟨hauthority, hnone⟩ := normalizes_of_withQuery h
  have hvisible := isVisible_of_escapedPart hquery
  have hadmits : [a.authority, path, query.getD [], fragment.getD []].all admits
      = decide ((query.getD []).length ≤ lengthLimit) := by
    simp only [List.all_cons, List.all_nil, hauthority, admits_of_visible hpath,
      admits_of_visible hvisible, admits_of_visible hfragment, decide_eq_true hpathFits,
      decide_eq_true hfragmentFits, Bool.true_and, Bool.and_true]
  show (if [a.authority, path, query.getD [], fragment.getD []].all admits then
    ofParts a.scheme a.authority path query fragment else .error .invalid) = _
  rw [hadmits]
  by_cases hfits : (query.getD []).length ≤ lengthLimit
  · rw [if_pos hfits, if_pos (decide_eq_true hfits)]
    have hnormal := hnone.behind hb hroot (isScalar_of_visible hpath)
      (isScalar_of_visible hvisible) (isScalar_of_visible hfragment)
    rw [map_quote_of_escaped hquery] at hnormal
    exact (ofParts_eq_ok_iff _ _).mpr hnormal
  · rw [if_neg hfits, if_neg (by simpa using hfits)]

/-! ## §5. Writing behind an address. -/

/-- An address that names a host was read from a text with a scheme and an authority. -/
theorem proper_of_read {t : Text} {a : Address} (h : read t = .ok a) (ha : a.isAbsolute = true) :
    (Parts.ofText t).Proper ∧ (Parts.ofText t).text = t ∧ Normalizes (Parts.ofText t) a
      ∧ admits t = true := by
  rw [read_eq] at h
  split at h
  next hadmits =>
    have hnormal := (ofParts_eq_ok_iff (Parts.ofText t) a).mp h
    unfold isAbsolute at ha
    rw [Bool.and_eq_true, Bool.not_eq_true', Bool.not_eq_true', List.isEmpty_eq_false_iff,
      List.isEmpty_eq_false_iff] at ha
    have hscheme : (Parts.ofText t).scheme ≠ [] := by
      intro hnil
      have hlower := hnormal.scheme
      rw [hnil] at hlower
      exact ha.1 hlower
    have hauthority : (Parts.ofText t).authority ≠ [] := by
      intro hnil
      have hhost := hnormal.host
      rw [hnil] at hhost
      exact ha.2 (Except.ok.inj hhost).symm
    exact ⟨(Parts.text_ofText hscheme hauthority).1, (Parts.text_ofText hscheme hauthority).2,
      hnormal, hadmits⟩
  next => exact absurd h (by simp)

/-- What is written behind an address that names a host stands in the last of its parts, and only
the parts behind the host come out anew. -/
theorem read_append_eq {base x : Text} {a : Address} (hread : read base = .ok a)
    (ha : a.isAbsolute = true) (hscalar : base.isScalar = true)
    (hhead : ∃ rest, x = CodePoint.ofChar '/' :: rest) (hvisible : ∀ c ∈ x, isVisible c = true)
    (hfree : ∀ c ∈ x, ([0x3F, 0x23] : List Nat).contains c.val = false)
    (hfits : (base ++ x).length ≤ lengthLimit) :
    let p := (Parts.ofText base).extend x
    Rooted p.path ∧ read (base ++ x) = .ok { a with
      path := Percent.quote (Percent.keeps Component.barredInPath) (normalPath p.path)
      query := p.query.map (Percent.quote (Percent.keeps Component.barredInQuery))
      fragment := p.fragment.map (Percent.quote (Percent.keeps Component.barredInFragment)) } := by
  obtain ⟨hproper, htext, hnormal, hadmits⟩ := proper_of_read hread ha
  have hparts : Parts.ofText (base ++ x) = (Parts.ofText base).extend x := by
    have hback := Parts.ofText_text (hproper.extend hhead hfree)
    rwa [Parts.text_extend, htext] at hback
  have hadmits' : admits (base ++ x) = true := by
    have hx := admits_of_visible hvisible
    unfold admits at *
    rw [Bool.and_eq_true] at hadmits ⊢
    rw [List.any_append, Bool.not_or, Bool.and_eq_true]
    have hlen : decide (x.length ≤ lengthLimit) = true := by
      rw [List.length_append] at hfits
      exact decide_eq_true (by omega)
    rw [hlen, Bool.true_and] at hx
    exact ⟨decide_eq_true hfits, hadmits.2, hx⟩
  have hrooted : Rooted ((Parts.ofText base).extend x).path :=
    (hproper.extend hhead hfree).path_rooted
  -- what the parts behind the host are made of can be encoded
  have hencode : ∀ t : Text, (∀ c ∈ t, c ∈ ((Parts.ofText base).extend x).text) →
      t.isScalar = true := by
    intro t ht
    rw [Parts.text_extend, htext] at ht
    unfold Text.isScalar at hscalar ⊢
    rw [List.all_eq_true] at hscalar ⊢
    intro c hc
    rcases List.mem_append.mp (ht c hc) with h | h
    · exact hscalar c h
    · exact List.all_eq_true.mp (isScalar_of_visible hvisible) c h
  have hnormal' := hnormal.behind ha hrooted
    (hencode _ fun c hc => Parts.mem_text (Or.inl hc))
    (hencode _ fun c hc => Parts.mem_text (Or.inr (Or.inl hc)))
    (hencode _ fun c hc => Parts.mem_text (Or.inr (Or.inr hc)))
  rw [← Parts.extend_eq] at hnormal'
  refine ⟨hrooted, ?_⟩
  rw [read_eq, if_pos hadmits', hparts]
  exact (ofParts_eq_ok_iff _ _).mpr hnormal'

/-- **What is written behind an address that names a host leaves the host alone.** -/
theorem read_append {base x : Text} {a : Address} (hread : read base = .ok a)
    (ha : a.isAbsolute = true) (hscalar : base.isScalar = true)
    (hhead : ∃ rest, x = CodePoint.ofChar '/' :: rest) (hvisible : ∀ c ∈ x, isVisible c = true)
    (hfree : ∀ c ∈ x, ([0x3F, 0x23] : List Nat).contains c.val = false)
    (hfits : (base ++ x).length ≤ lengthLimit) :
    ∃ path query fragment, read (base ++ x) = .ok { a with path, query, fragment }
      ∧ Rooted path ∧ (∀ c ∈ path, isVisible c = true)
      ∧ ∀ c ∈ fragment.getD [], isVisible c = true := by
  obtain ⟨hrooted, hread'⟩ := read_append_eq hread ha hscalar hhead hvisible hfree hfits
  refine ⟨_, _, _, hread', (normalPath_rooted hrooted).quote,
    fun c hc => isVisible_of_mem_quote hc, ?_⟩
  intro c hc
  cases hf : ((Parts.ofText base).extend x).fragment with
  | none =>
    rw [hf] at hc
    exact absurd hc List.not_mem_nil
  | some f =>
    rw [hf] at hc
    exact isVisible_of_mem_quote hc

end Address

end JobWatch
