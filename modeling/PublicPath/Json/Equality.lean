import PublicPath.Json.Basic

/-!
# Equality of generic values
-/

namespace PublicPath.Json

deriving instance DecidableEq for Number

mutual

/-- Whether two values are equal. -/
def same : Json → Json → Bool
  | .null, .null => true
  | .bool a, .bool b => a = b
  | .number m, .number n => m = n
  | .string s, .string t => s = t
  | .array xs, .array ys => sameItems xs ys
  | .object xs, .object ys => sameMembers xs ys
  | _, _ => false

def sameItems : List Json → List Json → Bool
  | [], [] => true
  | v :: xs, w :: ys => same v w && sameItems xs ys
  | _, _ => false

def sameMembers : List (String × Json) → List (String × Json) → Bool
  | [], [] => true
  | (key, v) :: xs, (other, w) :: ys => key = other && same v w && sameMembers xs ys
  | _, _ => false

end

mutual

theorem same_iff (v w : Json) : same v w = true ↔ v = w := by
  cases v with
  | array xs =>
    cases w with
    | array ys => simp [same, sameItems_iff xs ys]
    | _ => simp [same]
  | object xs =>
    cases w with
    | object ys => simp [same, sameMembers_iff xs ys]
    | _ => simp [same]
  | _ => cases w <;> simp [same]

theorem sameItems_iff (xs ys : List Json) : sameItems xs ys = true ↔ xs = ys := by
  cases xs with
  | nil => cases ys <;> simp [sameItems]
  | cons v xs =>
    cases ys with
    | nil => simp [sameItems]
    | cons w ys => simp [sameItems, same_iff v w, sameItems_iff xs ys]

theorem sameMembers_iff (xs ys : List (String × Json)) : sameMembers xs ys = true ↔ xs = ys := by
  cases xs with
  | nil => cases ys <;> simp [sameMembers]
  | cons m xs =>
    obtain ⟨key, v⟩ := m
    cases ys with
    | nil => simp [sameMembers]
    | cons n ys =>
      obtain ⟨other, w⟩ := n
      simp [sameMembers, same_iff v w, sameMembers_iff xs ys]

end

instance : DecidableEq Json := fun v w => decidable_of_iff _ (same_iff v w)

end PublicPath.Json
