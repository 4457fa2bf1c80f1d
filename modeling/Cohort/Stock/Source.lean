import Cohort.Stock.Operator

/-! # Sources of stock templates -/

namespace Cohort.Stock

/-! ## Actions -/

/-- The action that binds a field. -/
def argAction (field : String) : String := "\x7b\x7b arg ." ++ field ++ " \x7d\x7d"

/-- The action that binds each item of a field. -/
def argEachAction (field : String) : String := "\x7b\x7b argEach ." ++ field ++ " \x7d\x7d"

/-- An action that takes the white space before it away. -/
def trimmedAction (body : String) : String := "\x7b\x7b- " ++ body ++ " \x7d\x7d"

/-! ## Choices -/

/-- The condition that a field has a value. -/
def condition (field value : String) : String := "if eq ." ++ field ++ " \"" ++ value ++ "\""

/-- The branches of a choice between the values of a field: the conditions in order, what is said
otherwise, and the end, each on a line of its own. -/
def choice (field : String) (cases : List (String × String)) (otherwise : Option String) : String :=
  let branches := cases.zipIdx.map fun ((value, body), i) =>
    trimmedAction (if i = 0 then condition field value else "else " ++ condition field value) ++ body
  String.intercalate "\n" (branches ++ otherwise.toList.map (trimmedAction "else" ++ ·) ++
    [trimmedAction "end"])

/-- The choice between the operators on a number: a sign and the field `value`, or the fields `low`
and `high` with `join` between them. -/
def numberChoice (field value low join high : String) : String :=
  choice field
    (NumberOperator.comparisons.map (fun (op, sign) => (op.name, " " ++ sign ++ " " ++ argAction value))
      ++ [(NumberOperator.between.name, " BETWEEN " ++ argAction low ++ join ++ argAction high)])
    (some (" = " ++ argAction value))

/-! ## Templates -/

/-- The users whose field compares to a number. -/
def numberSource (column : String) : String :=
  "SELECT user_id FROM users WHERE " ++ column ++ "\n" ++
    numberChoice "operator" "value" "min" " AND " "max"

/-- What a column has to satisfy under an operator on texts. -/
def textTest (column : String) : TextOperator → String
  | .equal => " " ++ column ++ " = " ++ argAction "value"
  | .notEqual => " " ++ column ++ " != " ++ argAction "value"
  | .contains => " " ++ column ++ " LIKE CONCAT('%', " ++ argAction "value" ++ ", '%')"
  | .startsWith => " " ++ column ++ " LIKE CONCAT(" ++ argAction "value" ++ ", '%')"
  | .endsWith => " " ++ column ++ " LIKE CONCAT('%', " ++ argAction "value" ++ ")"
  | .oneOf => " " ++ column ++ " IN (" ++ argEachAction "values" ++ ")"
  | .noneOf => " " ++ column ++ " NOT IN (" ++ argEachAction "values" ++ ")"

/-- The users whose field matches a text. -/
def textSource (column : String) : String :=
  "SELECT user_id FROM users WHERE\n" ++
    choice "operator" (TextOperator.all.map fun op => (op.name, textTest column op))
      (some (textTest column .equal))

/-- The users whose field lies between two dates. -/
def periodSource (column : String) : String :=
  "SELECT user_id FROM users WHERE " ++ column ++ " BETWEEN " ++ argAction "start" ++ " AND " ++
    argAction "end"

/-- The users with a number of events of a name, which is written as an SQL literal. -/
def eventSource (literal : String) : String :=
  String.intercalate "\n" [
    "SELECT user_id FROM events",
    "WHERE event_name = " ++ literal,
    "AND created_at >=",
    choice "timeRange" (TimeRange.all.map fun r => (r.name, " " ++ r.start))
      (some (" " ++ TimeRange.week.start)),
    "GROUP BY user_id",
    choice "accumulation" (Accumulation.all.map fun a => (a.name, "\nHAVING " ++ a.aggregate)) none,
    numberChoice "countOperator" "countValue" "countMin" ("\n" ++ trimmedAction "\" AND \"")
      "countMax"]

end Cohort.Stock
