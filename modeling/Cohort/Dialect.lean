import Cohort.Expression.Basic

/-! # Dialects: how queries are joined -/

namespace Cohort

/-- What a compiler has to know of a dialect: how queries are joined by an operation, and how a query
is marked as a part of another. -/
structure Vocabulary where
  join : SetOperation → List String → String
  parenthesize : String → String

/-- The dialects. -/
inductive Dialect where
  | bigQuery
  | postgres
  | mySql
  | snowflake
deriving DecidableEq, Repr, Inhabited

namespace Dialect

/-- All dialects. -/
def all : List Dialect := [.bigQuery, .postgres, .mySql, .snowflake]

/-- The name of a dialect. -/
def name : Dialect → String
  | .bigQuery => "bigquery"
  | .postgres => "postgres"
  | .mySql => "mysql"
  | .snowflake => "snowflake"

/-- The dialect of a name. -/
def ofName? (name : String) : Option Dialect :=
  all.find? fun d => d.name == name

/-- The dialect of a name in any case of its letters. -/
def read? (name : String) : Option Dialect :=
  ofName? (String.ofList (name.toList.map Char.toLower))

/-- The word that a dialect puts between the queries of an operation. -/
def word (d : Dialect) (op : SetOperation) : String :=
  match d with
  | .bigQuery => op.name ++ " DISTINCT"
  | .postgres | .mySql | .snowflake => op.name

/-- Joins queries by an operation. A difference of fewer than two is no query. -/
def join (d : Dialect) (op : SetOperation) (queries : List String) : String :=
  if op = .except ∧ queries.length < 2 then ""
  else String.intercalate (" " ++ d.word op ++ " ") queries

/-- A query as a part of another. -/
def parenthesize (query : String) : String := "(" ++ query ++ ")"

/-- The vocabulary of a dialect. -/
def vocabulary (d : Dialect) : Vocabulary := ⟨d.join, parenthesize⟩

instance : Coe Dialect Vocabulary := ⟨vocabulary⟩

end Dialect

end Cohort
