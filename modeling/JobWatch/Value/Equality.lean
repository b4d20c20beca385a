/-
  JobWatch.Value.Equality
  ───────────────────────
  **WHETHER TWO VALUES ARE THE SAME.**

  Lists and objects hold values again, so the comparison goes down into them,
  place by place. Objects are the same when their fields are, in the same
  order. What a body reads as can therefore be decided:

      same a b  — the comparison
      same_iff  — it finds equality
-/
import JobWatch.Value.Basic

namespace JobWatch

namespace Value

mutual

/-- The values are the same. -/
def same : Value → Value → Bool
  | .null, .null => true
  | .bool a, .bool b => a == b
  | .int m, .int n => m == n
  | .float x, .float y => x == y
  | .text s, .text t => s == t
  | .list xs, .list ys => sameItems xs ys
  | .object fs, .object gs => sameFields fs gs
  | _, _ => false

/-- The values in the lists are the same, place by place. -/
def sameItems : List Value → List Value → Bool
  | [], [] => true
  | x :: xs, y :: ys => same x y && sameItems xs ys
  | _, _ => false

/-- The fields have the same names and values, place by place. -/
def sameFields : Fields → Fields → Bool
  | [], [] => true
  | (s, v) :: fs, (t, w) :: gs => s == t && same v w && sameFields fs gs
  | _, _ => false

end

mutual

/-- **The comparison finds equality.** -/
theorem same_iff (a b : Value) : same a b = true ↔ a = b := by
  cases a with
  | list xs =>
    cases b with
    | list ys => simp [same, sameItems_iff xs ys]
    | _ => simp [same]
  | object fs =>
    cases b with
    | object gs => simp [same, sameFields_iff fs gs]
    | _ => simp [same]
  | _ => cases b <;> simp [same]

theorem sameItems_iff (xs ys : List Value) : sameItems xs ys = true ↔ xs = ys := by
  cases xs with
  | nil => cases ys <;> simp [sameItems]
  | cons x xs =>
    cases ys with
    | nil => simp [sameItems]
    | cons y ys => simp [sameItems, same_iff x y, sameItems_iff xs ys]

theorem sameFields_iff (fs gs : Fields) : sameFields fs gs = true ↔ fs = gs := by
  cases fs with
  | nil => cases gs <;> simp [sameFields]
  | cons f fs =>
    obtain ⟨s, v⟩ := f
    cases gs with
    | nil => simp [sameFields]
    | cons g gs =>
      obtain ⟨t, w⟩ := g
      simp [sameFields, same_iff v w, sameFields_iff fs gs]

end

instance : DecidableEq Value := fun a b => decidable_of_iff (same a b = true) (same_iff a b)

end Value

end JobWatch
