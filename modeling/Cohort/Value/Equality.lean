import Cohort.Value.Basic

/-! # Equality of values -/

namespace Cohort.Value

mutual

/-- Whether two values are the same: numbers by value, lists item by item, objects by name. -/
def same : Value → Value → Bool
  | .null, .null => true
  | .bool a, .bool b => a == b
  | .num a, .num b => a.sameValue b
  | .str a, .str b => a == b
  | .arr xs, .arr ys => sameItems xs ys
  | .obj xs, .obj ys => xs.length == ys.length && sameFields xs ys
  | _, _ => false

/-- Whether two lists hold the same values. -/
def sameItems : List Value → List Value → Bool
  | [], [] => true
  | x :: xs, y :: ys => same x y && sameItems xs ys
  | _, _ => false

/-- Whether every field is found with the same value among others. -/
def sameFields : List (String × Value) → List (String × Value) → Bool
  | [], _ => true
  | (name, x) :: rest, ys =>
    (match Fields.get? ys name with
      | some y => same x y
      | none => false) && sameFields rest ys

end

end Cohort.Value
