/-
  JobWatch.Value.Basic
  ────────────────────
  **WIRE VALUES.**

  Whatever a service may send in a field, and whatever a caller may hand over
  as an identifier: null, truth values, numbers, texts, lists and objects. An
  object keeps its fields in the order in which their names first appeared.
-/
import JobWatch.Number.Binary64

namespace JobWatch

/-- A value of any kind that a message body can hold. -/
inductive Value where
  /-- Nothing. -/
  | null
  /-- A truth value. -/
  | bool (b : Bool)
  /-- A whole number of any size. -/
  | int (n : Int)
  /-- A binary64 number. -/
  | float (x : Binary64)
  /-- A text. -/
  | text (t : Text)
  /-- Values in order. -/
  | list (items : List Value)
  /-- Named values in order. -/
  | object (fields : List (Text × Value))

/-- The fields of an object. -/
abbrev Fields := List (Text × Value)

namespace Fields

/-- The value under a name. -/
def get? (name : Text) (fields : Fields) : Option Value := List.lookup name fields

/-- The value under a name, null when there is none. -/
def get (name : Text) (fields : Fields) : Value := (get? name fields).getD .null

/-- The fields with `v` under `name`: an old field keeps its place, a new one goes to the end. -/
def put (name : Text) (v : Value) : Fields → Fields
  | [] => [(name, v)]
  | (n, old) :: rest => if n = name then (n, v) :: rest else (n, old) :: put name v rest

/-- A field that was put is found. -/
theorem get?_put (name : Text) (v : Value) (fields : Fields) :
    get? name (put name v fields) = some v := by
  induction fields with
  | nil => simp [get?, put]
  | cons f rest ih =>
    obtain ⟨n, old⟩ := f
    by_cases h : n = name
    · simp [get?, put, h]
    · have hn : (name == n) = false := by simpa using fun e : name = n => h e.symm
      simp only [get?, put, h, if_false, List.lookup_cons, hn] at ih ⊢
      exact ih

end Fields

namespace Value

/-- The value is null. -/
def isNull : Value → Bool
  | .null => true
  | _ => false

/-- The value is a text. -/
def isText : Value → Bool
  | .text _ => true
  | _ => false

/-- The text, if the value is one. -/
def text? : Value → Option Text
  | .text t => some t
  | _ => none

/-- The value if it is a text, null otherwise. -/
def textOrNull : Value → Value
  | .text t => .text t
  | _ => .null

/-- Null, false, zeros and whatever is empty do not hold. -/
def holds : Value → Bool
  | .null => false
  | .bool b => b
  | .int n => n != 0
  | .float x => !x.isZero
  | .text t => !t.isEmpty
  | .list items => !items.isEmpty
  | .object fields => !fields.isEmpty

/-- The whole number that a value stands for. Truth values count as 1 and 0, a float loses the
places behind its point, a text is read. -/
def toInt : Value → Except NumberError Int
  | .bool b => .ok (if b then 1 else 0)
  | .int n => .ok n
  | .float x => x.truncate
  | .text t =>
    match t.readInt? with
    | some n => .ok n
    | none => .error .malformed
  | .null | .list _ | .object _ => .error .notNumeric

end Value

end JobWatch
