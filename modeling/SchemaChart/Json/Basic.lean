/-
JSON values. Whole numbers and doubles are kept apart, and the members of an object keep their order.
-/
import SchemaChart.Dictionary
import SchemaChart.Decimal.Double

namespace SchemaChart

/-- A JSON value. -/
inductive Json where
  | null
  | bool (b : Bool)
  | int (n : Int)
  | real (x : Double)
  | str (s : String)
  | arr (items : List Json)
  | obj (members : List (String × Json))
  deriving Repr, Inhabited

namespace Json

/-- The member of an object with the given name. -/
def get? (v : Json) (name : String) : Option Json :=
  match v with
  | .obj members => members.lookup name
  | _ => none

/-- Whether a value counts as true: all do but null, false, zero, and what is empty. -/
def isTruthy : Json → Bool
  | .null => false
  | .bool b => b
  | .int n => n != 0
  | .real x => !x.isZero
  | .str s => !s.isEmpty
  | .arr items => !items.isEmpty
  | .obj members => !members.isEmpty

/-! ## Equality -/

mutual

/-- Whether two values are the same, their items and members in order. -/
def same : Json → Json → Bool
  | .null, .null => true
  | .bool b, .bool c => b == c
  | .int m, .int n => m == n
  | .real x, .real y => x == y
  | .str s, .str t => s == t
  | .arr xs, .arr ys => sameItems xs ys
  | .obj xs, .obj ys => sameMembers xs ys
  | _, _ => false

def sameItems : List Json → List Json → Bool
  | [], [] => true
  | x :: xs, y :: ys => same x y && sameItems xs ys
  | _, _ => false

def sameMembers : List (String × Json) → List (String × Json) → Bool
  | [], [] => true
  | (m, x) :: xs, (n, y) :: ys => m == n && same x y && sameMembers xs ys
  | _, _ => false

end

mutual

theorem same_iff : ∀ v w : Json, same v w = true ↔ v = w
  | .null, w | .bool _, w | .int _, w | .real _, w | .str _, w => by cases w <;> simp [same]
  | .arr xs, w => by
    cases w with
    | arr ys => rw [same, sameItems_iff xs ys, arr.injEq]
    | _ => simp [same]
  | .obj xs, w => by
    cases w with
    | obj ys => rw [same, sameMembers_iff xs ys, obj.injEq]
    | _ => simp [same]

theorem sameItems_iff : ∀ xs ys : List Json, sameItems xs ys = true ↔ xs = ys
  | [], ys => by cases ys <;> simp [sameItems]
  | _ :: _, [] => by simp [sameItems]
  | x :: xs, y :: ys => by simp [sameItems, same_iff x y, sameItems_iff xs ys]

theorem sameMembers_iff : ∀ xs ys : List (String × Json), sameMembers xs ys = true ↔ xs = ys
  | [], ys => by cases ys <;> simp [sameMembers]
  | _ :: _, [] => by simp [sameMembers]
  | (m, x) :: xs, (n, y) :: ys => by simp [sameMembers, same_iff x y, sameMembers_iff xs ys]

end

instance : DecidableEq Json := fun v w => decidable_of_iff (same v w = true) (same_iff v w)

end Json

end SchemaChart
