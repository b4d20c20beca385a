/-
  JobWatch.Proofs.PageDecoding
  ────────────────────────────
  **WHAT A DECODED PAGE CAN HOLD.**

  Every object decodes to a page.  Its messages are those of the entries that
  are objects, one for each and in their order, and what should be a text in a
  message is one or is missing.  The token of the next page is taken over as it
  came, so it is a text only where the service sent one; and a list of tokens
  becomes a query with a field for each of them:

      lists_messagesOf     — one message for each entry that is an object
      request_query        — the query of a request is the one for its token
      fieldCount_queryText — a query has a field for each item of a token
      ofFields_model       — what holds of every page, and of its token
-/
import JobWatch.Proofs.RequestPath

namespace JobWatch

/-! ## §1. Messages. -/

/-- What a field that should be a text decodes to: the text, or null in place of anything else. -/
inductive Value.KeepsText : Value → Value → Prop
  | text (t : Text) : KeepsText (.text t) (.text t)
  | missing {v : Value} (h : v.isText = false) : KeepsText v .null

theorem Value.keepsText_textOrNull (v : Value) : KeepsText v v.textOrNull := by
  cases v with
  | text t => exact .text t
  | _ => exact .missing rfl

namespace Message

/-- `m` is the message in an entry with these fields. -/
structure Decodes (fields : Fields) (m : Message) : Prop where
  id : Value.KeepsText (Fields.get "id" fields) m.id
  text : Value.KeepsText (Fields.get "messageText" fields) m.text
  importance : Value.KeepsText (Fields.get "messageImportance" fields) m.importance
  time : m.time = Fields.get "time" fields

theorem decodes_ofFields (fields : Fields) : Decodes fields (ofFields fields) :=
  ⟨Value.keepsText_textOrNull _, Value.keepsText_textOrNull _, Value.keepsText_textOrNull _, rfl⟩

end Message

namespace Page

/-- `Lists items ms`: there is one message for each entry that is an object, in the order of the
entries, and none for any other. -/
inductive Lists : List Value → List Message → Prop
  | nil : Lists [] []
  /-- An object is an entry. -/
  | entry {fields : Fields} {m : Message} {items : List Value} {ms : List Message}
      (h : Message.Decodes fields m) (rest : Lists items ms) :
      Lists (.object fields :: items) (m :: ms)
  /-- Anything else is none. -/
  | skip {v : Value} {items : List Value} {ms : List Message} (h : ∀ fields, v ≠ .object fields)
      (rest : Lists items ms) : Lists (v :: items) ms

/-- **A list decodes to one message for each entry that is an object.** -/
theorem lists_messagesOf (items : List Value) :
    ∃ ms, messagesOf (.list items) = some ms ∧ Lists items ms := by
  refine ⟨_, rfl, ?_⟩
  induction items with
  | nil => exact .nil
  | cons v items ih =>
    cases v with
    | object fields => exact .entry (Message.decodes_ofFields fields) ih
    | _ => exact .skip (by simp) ih

theorem messagesOf_of_not_list {v : Value} (h : ∀ items, v ≠ .list items) :
    messagesOf v = none := by
  cases v with
  | list items => exact absurd rfl (h items)
  | _ => rfl

/-! ## §2. The token. -/

theorem next_eq (fields : Fields) :
    (ofFields fields).next = if (Fields.get "nextPageToken" fields).holds
      then Fields.get "nextPageToken" fields else .null := rfl

/-- **The token of a page is null or a text exactly when what was sent is one**, or does not hold;
a text that holds is not empty. -/
theorem next_text_iff (fields : Fields) :
    ((ofFields fields).next = .null ∨ ∃ t, t ≠ [] ∧ (ofFields fields).next = .text t)
      ↔ ((Fields.get "nextPageToken" fields).holds = true →
          (Fields.get "nextPageToken" fields).isText = true) := by
  rw [next_eq]
  cases hholds : (Fields.get "nextPageToken" fields).holds with
  | false => simp
  | true =>
    rw [if_pos rfl]
    cases hv : Fields.get "nextPageToken" fields with
    | text t =>
      rw [hv] at hholds
      have ht : t ≠ [] := by
        rintro rfl
        exact absurd hholds (by simp [Value.holds])
      exact ⟨fun _ _ => rfl, fun _ => Or.inr ⟨t, ht, rfl⟩⟩
    | null =>
      rw [hv] at hholds
      exact absurd hholds (by simp [Value.holds])
    -- a number, a truth value, a list or an object that holds is neither
    | _ => simp [Value.isText]

end Page

/-! ## §3. Fields of a query. -/

namespace Percent

/-- The part of a query is a field with this name. -/
def isNamed (name part : Text) : Bool :=
  match part.cut? '=' with
  | none => false
  | some (n, _) => unform n = some name

/-- How many fields with this name a query has. -/
def fieldCount (name query : Text) : Nat := (query.splitAt '&').countP (isNamed name)

end Percent

/-- How many tokens the query of an address carries. -/
def Address.tokenCount (a : Address) : Nat :=
  (a.query.map (Percent.fieldCount "pageToken")).getD 0

namespace Client

/-- A field of a query, made of a form value. -/
theorem field_isNamed (t : Text) :
    Percent.isNamed "pageToken" (Text.ofString "pageToken=" ++ Percent.form t) = true
      ∧ ∀ d ∈ Text.ofString "pageToken=" ++ Percent.form t, d ≠ CodePoint.ofChar '&' := by
  have hfront : Text.ofString "pageToken="
      = Text.ofString "pageToken" ++ [CodePoint.ofChar '='] := by decide
  constructor
  · have hname : ∀ d ∈ Text.ofString "pageToken", d ≠ CodePoint.ofChar '=' := by decide
    have hform : Percent.form (Text.ofString "pageToken") = Text.ofString "pageToken" := by decide
    have hread := Percent.unform_form (t := Text.ofString "pageToken") (by decide)
    rw [hform] at hread
    unfold Percent.isNamed
    rw [hfront, List.append_assoc, List.singleton_append, Text.cut?_append hname]
    exact decide_eq_true hread
  · intro d hd
    rcases List.mem_append.mp hd with hd | hd
    · have hall : ∀ d ∈ Text.ofString "pageToken=", d ≠ CodePoint.ofChar '&' := by decide
      exact hall d hd
    · exact Percent.ne_of_mem_form hd (by decide) (by decide)

/-- **A query has a field for each parameter of its token.** -/
theorem fieldCount_queryText {token : Value} (h : parameters token ≠ []) :
    Percent.fieldCount "pageToken" (queryText token) = (parameters token).length := by
  -- the form of a token has no separator in it, so that the query falls into its fields
  have hsplit : Text.splitAt '&' (queryText token)
      = (parameters token).map fun t => Text.ofString "pageToken=" ++ Percent.form t := by
    refine Text.splitAt_join (by simpa using h) fun part hpart => ?_
    obtain ⟨t, -, rfl⟩ := List.mem_map.mp hpart
    exact (field_isNamed t).2
  unfold Percent.fieldCount
  rw [hsplit, List.countP_map, List.countP_eq_length]
  intro t _
  rw [Function.comp_apply]
  exact (field_isNamed t).1

/-- **The query of a request is the one for its token.** -/
theorem request_query {c : Client} {call : Call} {a : Address} (h : c.request call = .ok a) :
    a.query = queryOf call.token := by
  unfold request at h
  simp only [bind, bind_eq_ok_iff, addressed_eq_ok_iff] at h
  obtain ⟨url, -, read, -, base, -, q, hq, d, hwith, hhost⟩ := h
  -- whether the host is in ASCII decides on the request, and does not change it
  obtain rfl : d = a := by
    split at hhost
    next => exact Except.ok.inj hhost
    next => exact absurd hhost (by simp [throw, throwThe, MonadExceptOf.throw])
  rw [query_eq] at hq
  split at hq
  next =>
    obtain rfl := Except.ok.inj hq
    exact Address.query_of_withQuery hwith (escaped_queryOf call.token)
  next => exact absurd hq (by simp)

/-- A request carries one token for each parameter. -/
theorem tokenCount_of_sends {c : Client} {call : Call} {a : Address} (h : c.Sends call a)
    (hnull : call.token.isNull = false) (hne : parameters call.token ≠ []) :
    a.tokenCount = (parameters call.token).length := by
  have hquery : a.query = some (queryText call.token) := by
    rw [request_query ((sends_iff c call a).mp h)]
    exact if_neg (by simp [hnull])
  unfold Address.tokenCount
  rw [hquery]
  exact fieldCount_queryText hne

end Client

/-! ## §4. Pages. -/

namespace Page

/-- What is left of a token that holds has a parameter. -/
theorem parameters_ne_nil {v : Value} (h : v.holds = true) : Client.parameters v ≠ [] := by
  cases v with
  | list items =>
    cases items with
    | nil => exact absurd h (by simp [Value.holds])
    | cons v items => simp [Client.parameters]
  | _ => simp [Client.parameters]

/-- What is left of a token makes one parameter, unless it is a list of another length. -/
theorem length_parameters_eq_one_iff (v : Value) :
    (Client.parameters v).length = 1 ↔ ∀ items, v = .list items → items.length = 1 := by
  cases v with
  | list items => simp [Client.parameters]
  | _ => simp [Client.parameters]

/-- A token that is not null is the one that was sent. -/
theorem next_eq_of_not_null {fields : Fields} (h : (ofFields fields).next.isNull = false) :
    (Fields.get "nextPageToken" fields).holds = true
      ∧ (ofFields fields).next = Fields.get "nextPageToken" fields := by
  rw [next_eq] at h ⊢
  split at h
  next hholds => exact ⟨hholds, if_pos hholds⟩
  next => exact absurd h (by simp [Value.isNull])

/-- **What holds of every page that is decoded.**  It has no list of messages unless the object
has one, and then one message for each entry that is an object.  Its token is null or a text that
is not empty exactly when the object has nothing else that holds in that place; and a request made
with the token carries exactly one token unless the object has a list of several there. -/
theorem ofFields_model (fields : Fields) :
    (∀ items, Fields.get "jobMessages" fields = .list items →
        ∃ ms, (ofFields fields).messages = some ms ∧ Lists items ms)
      ∧ ((∀ items, Fields.get "jobMessages" fields ≠ .list items) →
          (ofFields fields).messages = none)
      ∧ (((ofFields fields).next = .null ∨ ∃ t, t ≠ [] ∧ (ofFields fields).next = .text t)
          ↔ ((Fields.get "nextPageToken" fields).holds = true →
              (Fields.get "nextPageToken" fields).isText = true))
      ∧ ∀ (c : Client) (call : Call) (a : Address), call.token = (ofFields fields).next →
          call.token.isNull = false → c.Sends call a →
            (a.tokenCount = 1 ↔ ∀ items, Fields.get "nextPageToken" fields = .list items →
              items.length = 1) := by
  refine ⟨?_, ?_, next_text_iff fields, ?_⟩
  · intro items hitems
    show ∃ ms, messagesOf (Fields.get "jobMessages" fields) = some ms ∧ _
    rw [hitems]
    exact lists_messagesOf items
  · exact fun hnone => messagesOf_of_not_list hnone
  · intro c call a htoken hnull hsends
    rw [htoken] at hnull
    obtain ⟨hholds, hsent⟩ := next_eq_of_not_null hnull
    rw [← htoken] at hnull hsent
    have hne : Client.parameters call.token ≠ [] := by
      rw [hsent]
      exact parameters_ne_nil hholds
    rw [Client.tokenCount_of_sends hsends hnull hne, hsent]
    exact length_parameters_eq_one_iff _

/-- A page with two tokens in the place of one. -/
def twoTokens : Fields := [("nextPageToken", .list [.text "a", .text "b"])]

/-- The address that such a page leads to. -/
def twoTokensAddress : Address :=
  { Client.defaultAddress "/v1b3/projects/p/jobs/j/messages" with
    query := some (Text.ofString "pageToken=a&pageToken=b") }

/-- **A list of tokens is taken over as it is**, and the request carries all of them. -/
theorem ofFields_twoTokens :
    (ofFields twoTokens).next = .list [.text "a", .text "b"]
      ∧ (Client.ofUrl Settings.defaultUrl).Sends
          ⟨.text "p", .text "j", (ofFields twoTokens).next⟩ twoTokensAddress
      ∧ twoTokensAddress.tokenCount = 2 := by
  have hnext : (ofFields twoTokens).next = .list [.text "a", .text "b"] := rfl
  have hsends : (Client.ofUrl Settings.defaultUrl).Sends
      ⟨.text "p", .text "j", .list [.text "a", .text "b"]⟩ twoTokensAddress := by
    rw [Client.sends_iff]
    cbv
  rw [hnext]
  exact ⟨rfl, hsends, Client.tokenCount_of_sends hsends rfl (by simp [Client.parameters])⟩

end Page

end JobWatch
