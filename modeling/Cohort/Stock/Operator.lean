/-! # Operators that stock builders offer -/

namespace Cohort.Stock

/-! ## Texts -/

/-- The operators on texts. -/
inductive TextOperator where
  | equal
  | notEqual
  | contains
  | startsWith
  | endsWith
  | oneOf
  | noneOf
deriving DecidableEq, Repr

namespace TextOperator

/-- All operators. -/
def all : List TextOperator :=
  [.equal, .notEqual, .contains, .startsWith, .endsWith, .oneOf, .noneOf]

/-- The operators on a choice. -/
def forChoice : List TextOperator := [.equal, .notEqual, .oneOf, .noneOf]

/-- The operators that take a list. -/
def onList : List TextOperator := [.oneOf, .noneOf]

/-- The name of an operator in parameters. -/
def name : TextOperator → String
  | .equal => "EQ"
  | .notEqual => "NE"
  | .contains => "CONTAINS"
  | .startsWith => "STARTS_WITH"
  | .endsWith => "ENDS_WITH"
  | .oneOf => "IN"
  | .noneOf => "NOT_IN"

/-- The label of an operator in forms. -/
def label : TextOperator → String
  | .equal => "equals"
  | .notEqual => "not equals"
  | .contains => "contains"
  | .startsWith => "starts with"
  | .endsWith => "ends with"
  | .oneOf => "in"
  | .noneOf => "not in"

end TextOperator

/-! ## Numbers -/

/-- The operators on numbers. -/
inductive NumberOperator where
  | equal
  | notEqual
  | less
  | atMost
  | greater
  | atLeast
  | between
deriving DecidableEq, Repr

namespace NumberOperator

/-- All operators. -/
def all : List NumberOperator :=
  [.equal, .notEqual, .less, .atMost, .greater, .atLeast, .between]

/-- The operators on one number, with the sign of each in a query. -/
def comparisons : List (NumberOperator × String) :=
  [(.equal, "="), (.notEqual, "!="), (.less, "<"), (.atMost, "<="), (.greater, ">"),
    (.atLeast, ">=")]

/-- The name of an operator in parameters. -/
def name : NumberOperator → String
  | .equal => "EQ"
  | .notEqual => "NE"
  | .less => "LT"
  | .atMost => "LTE"
  | .greater => "GT"
  | .atLeast => "GTE"
  | .between => "BETWEEN"

/-- The label of an operator on a field. -/
def label : NumberOperator → String
  | .equal => "Equals"
  | .notEqual => "Not Equals"
  | .less => "Less Than"
  | .atMost => "Less Than or Equals"
  | .greater => "Greater Than"
  | .atLeast => "Greater Than or Equals"
  | .between => "Between"

/-- The label of an operator on a count. -/
def countLabel : NumberOperator → String
  | .equal => "exactly"
  | .notEqual => "not exactly"
  | .less => "less than"
  | .atMost => "at most"
  | .greater => "more than"
  | .atLeast => "at least"
  | .between => "between"

end NumberOperator

/-! ## Events -/

/-- What is counted of an event. -/
inductive Accumulation where
  | count
  | days
deriving DecidableEq, Repr

namespace Accumulation

/-- All accumulations. -/
def all : List Accumulation := [.count, .days]

/-- The name of an accumulation in parameters. -/
def name : Accumulation → String
  | .count => "COUNT"
  | .days => "DAYS"

/-- The label of an accumulation in forms. -/
def label : Accumulation → String
  | .count => "total occurrences"
  | .days => "unique days"

/-- What a query compares. -/
def aggregate : Accumulation → String
  | .count => "COUNT(1)"
  | .days => "COUNT(DISTINCT DATE(created_at))"

end Accumulation

/-- How far back events are counted. -/
inductive TimeRange where
  | week
  | tenDays
  | month
  | quarter
deriving DecidableEq, Repr

namespace TimeRange

/-- All ranges. -/
def all : List TimeRange := [.week, .tenDays, .month, .quarter]

/-- The days of a range. -/
def days : TimeRange → String
  | .week => "7"
  | .tenDays => "10"
  | .month => "30"
  | .quarter => "90"

/-- The name of a range in parameters. -/
def name (r : TimeRange) : String := r.days ++ "D"

/-- The label of a range in forms. -/
def label (r : TimeRange) : String := "last " ++ r.days ++ " days"

/-- The start of a range in a query. -/
def start (r : TimeRange) : String :=
  "TIMESTAMP_SUB(CURRENT_TIMESTAMP(), INTERVAL " ++ r.days ++ " DAY)"

end TimeRange

end Cohort.Stock
