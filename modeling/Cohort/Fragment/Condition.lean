import Cohort.Fault
import Cohort.Fragment.Basic
import Cohort.Text.CaseMap
import Cohort.Value.Equality

/-! # Skip conditions -/

namespace Cohort

/-- The operators of a condition on a field. -/
inductive SkipOperator where
  /-- The value is one of a list. -/
  | oneOf
  /-- The value is the operand. -/
  | equal
deriving DecidableEq, Repr

namespace SkipOperator

/-- The operators, by their names in upper case. -/
def name : SkipOperator → String
  | .oneOf => "IN"
  | .equal => "EQ"

/-- The operator of a name in any case. -/
def ofName? (op : String) : Option SkipOperator :=
  [oneOf, equal].find? fun o => o.name == Text.toUpper op

/-- Whether a value satisfies an operator with its operand. -/
def holds (value operand : Value) : SkipOperator → Except ConditionFault Bool
  | .equal => .ok (value.same operand)
  | .oneOf =>
    match operand with
    | .arr items => .ok (items.any value.same)
    | v => .error (.listExpected v.kind)

end SkipOperator

namespace Condition

/-- The field that a key of a condition names: a dollar sign in front announces operators. -/
def fieldOf (key : String) : String :=
  match key.toList with
  | '$' :: rest => String.ofList rest
  | _ => key

/-- Whether a key announces operators. -/
def hasOperators (key : String) : Bool := key.toList.head? == some '$'

/-- Whether a value satisfies all operators, checked in order up to the first that fails. -/
def matchesAll (value : Value) : List (String × Value) → Except ConditionFault Bool
  | [] => .ok true
  | (op, operand) :: rest =>
    match SkipOperator.ofName? op with
    | none => .error (.unknownOperator op)
    | some o => do
      if ← o.holds value operand then matchesAll value rest else return false

/-- Whether one entry of a condition holds: a field equals a value, or satisfies operators. The field
has to be there. -/
def entryHolds (params : Params) (key : String) (expected : Value) : Except ConditionFault Bool :=
  let field := fieldOf key
  if hasOperators key then
    match expected with
    | .obj operators =>
      match params.get? field with
      | none => .error (.missingField field)
      | some value =>
        if operators.isEmpty then .error .noOperators else matchesAll value operators
    | _ => .error (.operatorsExpected field)
  else
    match params.get? field with
    | none => .error (.missingField field)
    | some value => .ok (value.same expected)

/-- Whether all entries of a condition hold, checked in order up to the first that fails. -/
def holds (params : Params) : Params → Except ConditionFault Bool
  | [] => .ok true
  | (key, expected) :: rest => do
    if ← entryHolds params key expected then holds params rest else return false

/-- Evaluates a clause. -/
def evaluate (clause : SkipClause) (params condition : Params) : Except Fault Bool :=
  match holds params condition with
  | .ok b => .ok b
  | .error fault => .error (.condition clause fault)

end Condition

/-- Whether a fragment is skipped: `skipIf` holds, or `skipUnless` does not. An empty clause says
nothing, and `skipUnless` is evaluated only if `skipIf` does not skip. -/
def Slot.shouldSkip (s : Slot) (params : Params) : Except Fault Bool := do
  let byIf ← if s.skipIf.isEmpty then pure false else Condition.evaluate .skipIf params s.skipIf
  if byIf then return true
  if s.skipUnless.isEmpty then return false
  return !(← Condition.evaluate .skipUnless params s.skipUnless)

end Cohort
