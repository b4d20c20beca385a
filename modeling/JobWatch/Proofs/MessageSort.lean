/-
  JobWatch.Proofs.MessageSort
  ───────────────────────────
  **THE ONE SORT THAT THE COMPARATOR ALLOWS.**

  The comparator puts a message of unknown time before every other, and so
  says of two such messages that each comes before the other.  Everywhere
  else it is the order of ranks.  The sort never asks it; yet what the sort
  gives is the only arrangement that has the unknown messages in front, keeps
  messages of one instant as they stood, and does not go against the
  comparator where that agrees with itself:

      compare_eq         — the comparator, by ranks
      consistent_iff     — it contradicts itself on two unknown messages only
      compare_trans      — it is transitive, up and down
      sort_eq_ok_iff     — the sort gives the stable sort by ranks
      sort_sort_append   — messages may be sorted in parts first
      sort_sortedByTime  — the sort gives what the comparator allows, and
                           that is one list only
-/
import Mathlib.Order.Compare
import JobWatch.Message.Order
import JobWatch.Proofs.InstantOrder
import JobWatch.Proofs.Outcomes
import JobWatch.Proofs.StableSort

namespace JobWatch

namespace Message

/-! ## §1. The comparator. -/

/-- The timestamp is unknown. -/
def isUnknown (m : Message) : Bool := decide (m.timestamp = .ok none)

/-- The timestamp is this instant. -/
def isAt (i : Instant) (m : Message) : Bool := decide (m.timestamp = .ok (some i))

/-- The comparator agrees with itself: it says of `b` and `a` the opposite of what it says of `a`
and `b`. -/
def Consistent (a b : Message) : Prop :=
  ∃ o, a.compare b = .ok o ∧ b.compare a = .ok o.swap

/-- A message that can be decoded has no rank among the instants only if its time is unknown. -/
theorem rank_eq_bot_iff {m : Message} (h : m.Readable) : m.rank = ⊥ ↔ m.isUnknown = true := by
  obtain ⟨t, ht⟩ := h
  unfold rank isUnknown
  rw [ht, decide_eq_true_eq]
  cases t with
  | none => exact ⟨fun _ => rfl, fun _ => rfl⟩
  | some t =>
    constructor
    · intro hbot
      exact absurd hbot WithBot.coe_ne_bot
    · intro hnone
      exact absurd hnone (by simp)

/-- **The comparator by ranks**: a message without one comes first, whatever the other is. -/
theorem compare_eq {a b : Message} (ha : a.Readable) (hb : b.Readable) :
    a.compare b = .ok (if a.rank = ⊥ then .lt else cmp a.rank b.rank) := by
  obtain ⟨s, hs⟩ := ha
  obtain ⟨t, ht⟩ := hb
  unfold compare rank
  rw [hs, ht]
  match s, t with
  | none, _ => rw [if_pos rfl]
  | some s, none =>
    rw [if_neg WithBot.coe_ne_bot, (cmp_eq_gt_iff _ _).mpr (WithBot.bot_lt_coe s)]
  | some s, some t =>
    have hcoe : cmp (s : WithBot Instant) (t : WithBot Instant) = cmp s t :=
      StrictMono.cmp_map_eq WithBot.coe_strictMono s t
    rw [if_neg WithBot.coe_ne_bot]
    -- on instants the comparator is the comparison of their linear order
    show Except.ok (cmp s t) = Except.ok (cmp (s : WithBot Instant) t)
    rw [hcoe]

theorem compare_of_unknown {a b : Message} (ha : a.Readable) (hb : b.Readable)
    (h : a.rank = ⊥) : a.compare b = .ok .lt := by
  rw [compare_eq ha hb, if_pos h]

theorem compare_of_known {a b : Message} (ha : a.Readable) (hb : b.Readable)
    (h : a.rank ≠ ⊥) : a.compare b = .ok (cmp a.rank b.rank) := by
  rw [compare_eq ha hb, if_neg h]

/-- **The comparator contradicts itself on two unknown messages**, and on no other pair. -/
theorem consistent_iff {a b : Message} (ha : a.Readable) (hb : b.Readable) :
    Consistent a b ↔ ¬(a.isUnknown = true ∧ b.isUnknown = true) := by
  unfold Consistent
  rw [← rank_eq_bot_iff ha, ← rank_eq_bot_iff hb]
  by_cases hra : a.rank = ⊥
  · by_cases hrb : b.rank = ⊥
    -- each of the two is said to come before the other
    · rw [compare_of_unknown ha hb hra, compare_of_unknown hb ha hrb]
      constructor
      · rintro ⟨o, ho, hswap⟩
        obtain rfl := Except.ok.inj ho
        exact absurd (Except.ok.inj hswap) (by decide)
      · intro h
        exact absurd ⟨hra, hrb⟩ h
    · have hlt : cmp a.rank b.rank = .lt := by
        rw [hra]
        exact (cmp_eq_lt_iff _ _).mpr (WithBot.bot_lt_iff_ne_bot.mpr hrb)
      rw [compare_of_unknown ha hb hra, compare_of_known hb ha hrb, ← cmp_swap, hlt]
      exact ⟨fun _ h => hrb h.2, fun _ => ⟨.lt, rfl, rfl⟩⟩
  · refine ⟨fun _ h => hra h.1, fun _ => ⟨cmp a.rank b.rank, compare_of_known ha hb hra, ?_⟩⟩
    rw [cmp_swap]
    by_cases hrb : b.rank = ⊥
    · rw [compare_of_unknown hb ha hrb, hrb,
        (cmp_eq_lt_iff _ _).mpr (WithBot.bot_lt_iff_ne_bot.mpr hra)]
    · exact compare_of_known hb ha hrb

theorem isLE_cmp_iff {α : Type} [LinearOrder α] (a b : α) : (cmp a b).isLE = true ↔ a ≤ b := by
  rw [Ordering.isLE_iff_ne_gt, cmp_eq_gt_iff, not_lt]

theorem isGE_cmp_iff {α : Type} [LinearOrder α] (a b : α) : (cmp a b).isGE = true ↔ b ≤ a := by
  rw [Ordering.isGE_iff_ne_lt, cmp_eq_lt_iff, not_lt]

/-- Along a chain, up or down, the ends compare as the first step that is not level. -/
theorem cmp_eq_then {α : Type} [LinearOrder α] {a b c : α}
    (h : a ≤ b ∧ b ≤ c ∨ b ≤ a ∧ c ≤ b) : cmp a c = (cmp a b).then (cmp b c) := by
  rcases lt_trichotomy a b with hab | rfl | hab
  · have hbc : b ≤ c := (h.resolve_right fun h' => absurd hab (not_lt.mpr h'.1)).2
    rw [(cmp_eq_lt_iff a b).mpr hab, (cmp_eq_lt_iff a c).mpr (lt_of_lt_of_le hab hbc)]
    rfl
  · rw [cmp_self_eq_eq]
    rfl
  · have hcb : c ≤ b := (h.resolve_left fun h' => absurd hab (not_lt.mpr h'.1)).2
    rw [(cmp_eq_gt_iff a b).mpr hab, (cmp_eq_gt_iff a c).mpr (lt_of_le_of_lt hcb hab)]
    rfl

/-- **The comparator is transitive**, upwards and downwards, and keeps what is strict. -/
theorem compare_trans {a b c : Message} (ha : a.Readable) (hb : b.Readable) (hc : c.Readable)
    {o p : Ordering} (ho : a.compare b = .ok o) (hp : b.compare c = .ok p)
    (h : o.isLE = true ∧ p.isLE = true ∨ o.isGE = true ∧ p.isGE = true) :
    a.compare c = .ok (o.then p) := by
  by_cases hra : a.rank = ⊥
  · rw [compare_of_unknown ha hb hra] at ho
    obtain rfl := Except.ok.inj ho
    exact compare_of_unknown ha hc hra
  rw [compare_of_known ha hb hra] at ho
  obtain rfl := Except.ok.inj ho
  rw [isLE_cmp_iff, isGE_cmp_iff] at h
  -- an unknown `b` would come after `a` and before `c`
  have hrb : b.rank ≠ ⊥ := by
    intro hrb
    rw [compare_of_unknown hb hc hrb] at hp
    obtain rfl := Except.ok.inj hp
    rcases h with ⟨hab, -⟩ | ⟨-, hge⟩
    · exact hra (le_bot_iff.mp (hrb ▸ hab))
    · exact absurd hge (by decide)
  rw [compare_of_known hb hc hrb] at hp
  obtain rfl := Except.ok.inj hp
  rw [isLE_cmp_iff, isGE_cmp_iff] at h
  rw [compare_of_known ha hc hra, cmp_eq_then h]

/-- The comparator allows `a` before `b` when the rank of `a` is no larger. -/
theorem isLE_compare_iff {a b : Message} (ha : a.Readable) (hb : b.Readable) :
    (∃ o, a.compare b = .ok o ∧ o.isLE = true) ↔ a.rank ≤ b.rank := by
  rw [compare_eq ha hb, ← isLE_cmp_iff]
  by_cases hra : a.rank = ⊥
  · rw [if_pos hra, isLE_cmp_iff, hra]
    exact ⟨fun _ => bot_le, fun _ => ⟨.lt, rfl, rfl⟩⟩
  · rw [if_neg hra]
    constructor
    · rintro ⟨o, ho, hle⟩
      rwa [Except.ok.inj ho]
    · intro hle
      exact ⟨_, rfl, hle⟩

/-! ## §2. The sort. -/

theorem timed_eq_ok_iff (m : Message) (x : Option Instant × Message) :
    m.timed = .ok x ↔ x.2 = m ∧ x.2.timestamp = .ok x.1 := by
  unfold timed
  constructor
  · intro h
    split at h
    next e he => exact absurd h (by simp)
    next t ht =>
      obtain rfl := Except.ok.inj h
      exact ⟨rfl, ht⟩
  · rintro ⟨rfl, h⟩
    rw [h]

/-- Messages are put beside their instants if each of them can be. -/
theorem mapM_timed_eq_ok_iff (ms : List Message) (ts : List (Option Instant × Message)) :
    ms.mapM timed = .ok ts ↔ ts.map Prod.snd = ms ∧ ∀ x ∈ ts, x.2.timestamp = .ok x.1 := by
  induction ms generalizing ts with
  | nil =>
    rw [List.mapM_nil, List.map_eq_nil_iff]
    constructor
    · intro h
      obtain rfl := Except.ok.inj h
      exact ⟨rfl, List.forall_mem_nil _⟩
    · rintro ⟨rfl, -⟩
      rfl
  | cons m ms ih =>
    rw [mapM_cons_eq_ok_iff]
    constructor
    · rintro ⟨x, rest, hx, hrest, rfl⟩
      obtain ⟨rfl, ht⟩ := (timed_eq_ok_iff m x).mp hx
      obtain ⟨rfl, hts⟩ := (ih rest).mp hrest
      exact ⟨List.map_cons, List.forall_mem_cons.mpr ⟨ht, hts⟩⟩
    -- what is beside the first message is settled by its own timestamp, the rest by induction
    · rintro ⟨hmap, hts⟩
      obtain ⟨x, rest, rfl, hx, hrest⟩ := List.map_eq_cons_iff.mp hmap
      rw [List.forall_mem_cons] at hts
      exact ⟨x, rest, (timed_eq_ok_iff m x).mpr ⟨hx, hts.1⟩, (ih rest).mpr ⟨hrest, hts.2⟩, rfl⟩

/-- They can be put so when their timestamps can be decoded. -/
theorem exists_mapM_timed_iff (ms : List Message) :
    (∃ ts, ms.mapM timed = .ok ts) ↔ ∀ m ∈ ms, m.Readable := by
  constructor
  · rintro ⟨ts, hts⟩ m hm
    obtain ⟨rfl, hfaithful⟩ := (mapM_timed_eq_ok_iff ms ts).mp hts
    obtain ⟨x, hx, rfl⟩ := List.mem_map.mp hm
    exact ⟨x.1, hfaithful x hx⟩
  · intro h
    induction ms with
    | nil => exact ⟨[], List.mapM_nil⟩
    | cons m ms ih =>
      rw [List.forall_mem_cons] at h
      obtain ⟨⟨t, ht⟩, hrest⟩ := h
      obtain ⟨ts, hts⟩ := ih hrest
      exact ⟨(t, m) :: ts, mapM_cons_eq_ok_iff.mpr
        ⟨(t, m), ts, (timed_eq_ok_iff m _).mpr ⟨rfl, ht⟩, hts, rfl⟩⟩

/-- The keys that are compared are ranks. -/
theorem keyLe_eq_decide {a b : Option Instant × Message} (ha : a.2.timestamp = .ok a.1)
    (hb : b.2.timestamp = .ok b.1) :
    Instant.keyLe a.1 b.1 = decide (a.2.rank ≤ b.2.rank) := by
  unfold rank
  rw [ha, hb]
  match a.1, b.1 with
  | none, _ => exact (decide_eq_true bot_le).symm
  | some s, none =>
    exact (decide_eq_false (not_le_of_gt (WithBot.bot_lt_coe s))).symm
  | some s, some t =>
    show (!t.before s) = decide ((s : WithBot Instant) ≤ t)
    rw [Instant.before_eq_decide, ← decide_not]
    simp only [not_lt, WithBot.coe_le_coe]

/-- Messages beside their instants are sorted as messages by rank. -/
theorem map_snd_sortTimed {ts : List (Option Instant × Message)}
    (h : ∀ x ∈ ts, x.2.timestamp = .ok x.1) :
    (sortTimed ts).map Prod.snd
      = (ts.map Prod.snd).mergeSort fun a b => decide (a.rank ≤ b.rank) := by
  unfold sortTimed
  exact List.map_mergeSort fun a ha b hb => keyLe_eq_decide (h a ha) (h b hb)

/-- **The sort** gives a result when every timestamp can be decoded, and it is the stable sort by
ranks. -/
theorem sort_eq_ok_iff (ms out : List Message) :
    sort ms = .ok out ↔ (∀ m ∈ ms, m.Readable) ∧ StablySorted rank ms out := by
  rw [← exists_mapM_timed_iff]
  unfold sort
  cases hts : ms.mapM timed with
  | error e =>
    constructor
    · intro h
      exact absurd h (by simp)
    · rintro ⟨⟨ts, h⟩, -⟩
      exact absurd h (by simp)
  | ok ts =>
    obtain ⟨rfl, hfaithful⟩ := (mapM_timed_eq_ok_iff ms ts).mp hts
    have hsorted : StablySorted rank (ts.map Prod.snd) ((sortTimed ts).map Prod.snd) := by
      rw [map_snd_sortTimed hfaithful]
      exact stablySorted_mergeSort (fun _ _ => rfl) _
    constructor
    · intro h
      obtain rfl := Except.ok.inj h
      exact ⟨⟨ts, rfl⟩, hsorted⟩
    -- there is one stable sort only, so a list that is one is what the sort gives
    · rintro ⟨-, h⟩
      exact congrArg Except.ok (hsorted.unique h)

/-- The result of a sort is what is sorted, put beside its instants. -/
theorem sort_eq_map (ms : List Message) :
    sort ms = (ms.mapM timed).map fun ts => (sortTimed ts).map Prod.snd := by
  unfold sort
  cases ms.mapM timed <;> rfl

theorem exists_sort {ms : List Message} (h : ∀ m ∈ ms, m.Readable) : ∃ out, sort ms = .ok out := by
  obtain ⟨ts, hts⟩ := (exists_mapM_timed_iff ms).mpr h
  rw [sort_eq_map, hts]
  exact ⟨_, rfl⟩

/-- **Messages may be sorted in parts first**, and what is wrong with a part is wrong with the
whole. -/
theorem sort_sort_append (xs ys : List Message) :
    (do let a ← sort xs; let b ← sort ys; sort (a ++ b)) = sort (xs ++ ys) := by
  cases hxs : sort xs with
  -- the first message that cannot be decoded stops both sides, with the same error
  | error e =>
    rw [sort_eq_map] at hxs
    rw [sort_eq_map (xs ++ ys), List.mapM_append, error_of_map hxs]
    rfl
  | ok a =>
    cases hys : sort ys with
    | error e =>
      rw [sort_eq_map] at hxs hys
      obtain ⟨ts, hts, -⟩ := ok_of_map hxs
      rw [sort_eq_map (xs ++ ys), List.mapM_append, hts, error_of_map hys]
      rfl
    -- the whole is in order of ranks, and messages of one rank stand in the parts as they stood
    | ok b =>
      obtain ⟨hreadx, ha⟩ := (sort_eq_ok_iff xs a).mp hxs
      obtain ⟨hready, hb⟩ := (sort_eq_ok_iff ys b).mp hys
      have hread : ∀ m ∈ a ++ b, m.Readable := List.forall_mem_append.mpr
        ⟨fun m hm => hreadx m ((ha.mem_iff m).mp hm), fun m hm => hready m ((hb.mem_iff m).mp hm)⟩
      obtain ⟨out, hout⟩ := exists_sort hread
      show sort (a ++ b) = sort (xs ++ ys)
      rw [hout, (sort_eq_ok_iff (xs ++ ys) out).mpr ⟨List.forall_mem_append.mpr ⟨hreadx, hready⟩,
        ha.of_append hb ((sort_eq_ok_iff _ _).mp hout).2⟩]

/-! ## §3. What the comparator allows. -/

/-- `out` holds the messages `ms` in an order that the comparator allows. -/
structure SortedByTime (ms out : List Message) : Prop where
  /-- The messages are the same. -/
  perm : out.Perm ms
  /-- What is unknown comes first, as it stood. -/
  unknownFirst : ∃ known, out = ms.filter isUnknown ++ known ∧ ∀ m ∈ known, m.isUnknown = false
  /-- Messages of one instant stand as they stood. -/
  stable : ∀ i, out.filter (isAt i) = ms.filter (isAt i)
  /-- The comparator is not gone against where it agrees with itself. -/
  ascending : out.Pairwise fun a b => Consistent a b → ∃ o, a.compare b = .ok o ∧ o.isLE = true

theorem filter_rank_bot {ms : List Message} (h : ∀ m ∈ ms, m.Readable) :
    ms.filter (fun m => decide (m.rank = ⊥)) = ms.filter isUnknown := by
  refine List.filter_congr fun m hm => ?_
  rw [Bool.eq_iff_iff, decide_eq_true_eq]
  exact rank_eq_bot_iff (h m hm)

theorem filter_rank_coe (ms : List Message) (i : Instant) :
    ms.filter (fun m => decide (m.rank = (i : WithBot Instant))) = ms.filter (isAt i) := by
  refine List.filter_congr fun m _ => ?_
  exact decide_eq_decide.mpr (rank_eq_coe_iff m i)

variable {ms out : List Message}

/-- What the comparator allows is a stable sort by ranks, -/
theorem SortedByTime.stablySorted (hread : ∀ m ∈ ms, m.Readable) (h : SortedByTime ms out) :
    StablySorted rank ms out := by
  have hreadOut : ∀ m ∈ out, m.Readable := fun m hm => hread m (h.perm.mem_iff.mp hm)
  refine ⟨?_, fun k => ?_⟩
  · refine h.ascending.imp_of_mem ?_
    intro a b ha hb hallowed
    have hra := hreadOut a ha
    have hrb := hreadOut b hb
    -- of two unknown messages the comparator tells nothing, but they have no rank to be compared
    by_cases hunknown : a.isUnknown = true
    · rw [(rank_eq_bot_iff hra).mpr hunknown]
      exact bot_le
    · exact (isLE_compare_iff hra hrb).mp
        (hallowed ((consistent_iff hra hrb).mpr fun hboth => hunknown hboth.1))
  · cases k with
    -- the unknown messages of `out` are the ones in front
    | bot =>
      obtain ⟨known, hout, hknown⟩ := h.unknownFirst
      have hnone : known.filter isUnknown = [] :=
        List.filter_eq_nil_iff.mpr fun m hm => by simp [hknown m hm]
      rw [filter_rank_bot hreadOut, filter_rank_bot hread, hout, List.filter_append, hnone,
        List.append_nil, List.filter_filter]
      simp only [Bool.and_self]
    | coe i => rw [filter_rank_coe, filter_rank_coe, h.stable i]

/-- and the other way round. -/
theorem sortedByTime_of_stablySorted (hread : ∀ m ∈ ms, m.Readable)
    (h : StablySorted rank ms out) : SortedByTime ms out := by
  have hreadOut : ∀ m ∈ out, m.Readable := fun m hm => hread m ((h.mem_iff m).mp hm)
  refine ⟨h.perm, ⟨out.filter fun m => decide (⊥ < m.rank), ?_, ?_⟩, fun i => ?_, ?_⟩
  · -- the sort is cut in two where the ranks begin to be instants
    have hfront := h.eq_append ⊥
    simp only [le_bot_iff] at hfront
    rwa [h.stable ⊥, filter_rank_bot hread] at hfront
  · intro m hm
    obtain ⟨hmem, hrank⟩ := List.mem_filter.mp hm
    rw [decide_eq_true_eq, bot_lt_iff_ne_bot] at hrank
    rw [← Bool.not_eq_true, ← rank_eq_bot_iff (hreadOut m hmem)]
    exact hrank
  · rw [← filter_rank_coe, ← filter_rank_coe, h.stable]
  · refine h.ascending.imp_of_mem ?_
    intro a b ha hb hle _
    exact (isLE_compare_iff (hreadOut a ha) (hreadOut b hb)).mpr hle

/-- **The sort gives what the comparator allows, and nothing else is allowed.**  Messages whose
timestamps can be decoded are sorted: the unknown ones come first, messages of one instant stand
as they stood, and the comparator is gone against only where it contradicts itself; no other list
is like that.  The comparator contradicts itself on two unknown messages and on no other pair, and
is transitive, up and down.  Any messages, also such as cannot be decoded, may be sorted in parts
first. -/
theorem sort_sortedByTime :
    (∀ ms : List Message, (∀ m ∈ ms, m.Readable) →
        ∃ out, sort ms = .ok out ∧ SortedByTime ms out
          ∧ ∀ other, SortedByTime ms other → other = out)
      ∧ (∀ a b : Message, a.Readable → b.Readable →
          (Consistent a b ↔ ¬(a.isUnknown = true ∧ b.isUnknown = true)))
      ∧ (∀ a b c : Message, a.Readable → b.Readable → c.Readable → ∀ o p : Ordering,
          a.compare b = .ok o → b.compare c = .ok p →
          (o.isLE = true ∧ p.isLE = true ∨ o.isGE = true ∧ p.isGE = true) →
          a.compare c = .ok (o.then p))
      ∧ ∀ xs ys : List Message,
          (do let a ← sort xs; let b ← sort ys; sort (a ++ b)) = sort (xs ++ ys) := by
  refine ⟨?_, ?_, ?_, sort_sort_append⟩
  · intro ms hread
    obtain ⟨out, hout⟩ := exists_sort hread
    have hsorted := ((sort_eq_ok_iff ms out).mp hout).2
    refine ⟨out, hout, sortedByTime_of_stablySorted hread hsorted, ?_⟩
    intro other hother
    exact (hother.stablySorted hread).unique hsorted
  · intro a b ha hb
    exact consistent_iff ha hb
  · intro a b c ha hb hc o p ho hp h
    exact compare_trans ha hb hc ho hp h

/-- Five messages, two of them of unknown time: the first of these comes before the second, and the
second before the first. -/
theorem sort_sortedByTime_five :
    sort [saidAt 5, { text := .text "first" }, saidAt 2, { text := .text "second" }, saidAt 8]
        = .ok [{ text := .text "first" }, { text := .text "second" }, saidAt 2, saidAt 5, saidAt 8]
      ∧ SortedByTime
        [saidAt 5, { text := .text "first" }, saidAt 2, { text := .text "second" }, saidAt 8]
        [{ text := .text "first" }, { text := .text "second" }, saidAt 2, saidAt 5, saidAt 8]
      ∧ ¬Consistent { text := .text "first" } { text := .text "second" }
      ∧ (saidAt 2).compare (saidAt 8) = .ok .lt := by
  have hread (s : Int) (h : Instant.minSeconds ≤ s ∧ s ≤ Instant.maxSeconds) :
      (saidAt s).Readable := ⟨_, timestamp_saidAt h⟩
  have hunknown (t : Value) : Readable { text := t } := ⟨none, rfl⟩
  have h2 := hread 2 (by decide)
  have h5 := hread 5 (by decide)
  have h8 := hread 8 (by decide)
  obtain ⟨hsort, hconsistent, htrans, -⟩ := sort_sortedByTime
  obtain ⟨out, hout, hsorted, -⟩ := hsort
    [saidAt 5, { text := .text "first" }, saidAt 2, { text := .text "second" }, saidAt 8]
    (by simp only [List.forall_mem_cons, h2, h5, h8, hunknown, List.not_mem_nil, false_implies,
      implies_true, and_self])
  have htimed : [saidAt 5, { text := .text "first" }, saidAt 2, { text := .text "second" },
      saidAt 8].mapM timed = .ok [(some ⟨5, 0, by decide⟩, saidAt 5),
        (none, { text := .text "first" }), (some ⟨2, 0, by decide⟩, saidAt 2),
        (none, { text := .text "second" }), (some ⟨8, 0, by decide⟩, saidAt 8)] := rfl
  have heval :
      sort [saidAt 5, { text := .text "first" }, saidAt 2, { text := .text "second" }, saidAt 8]
        = .ok [{ text := .text "first" }, { text := .text "second" }, saidAt 2, saidAt 5,
            saidAt 8] := by
    rw [sort_eq_map, htimed]
    simp [Except.map, sortTimed, List.mergeSort, List.MergeSort.Internal.splitInTwo_fst,
      List.MergeSort.Internal.splitInTwo_snd, Instant.keyLe, Instant.before]
  obtain rfl := Except.ok.inj (hout.symm.trans heval)
  refine ⟨hout, hsorted, ?_, htrans _ _ _ h2 h5 h8 .lt .lt rfl rfl (Or.inl ⟨rfl, rfl⟩)⟩
  rw [hconsistent _ _ (hunknown _) (hunknown _)]
  exact fun h => h ⟨rfl, rfl⟩

end Message

end JobWatch
