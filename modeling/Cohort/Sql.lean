import Cohort.Document.Record

/-! # Queries with bound arguments -/

namespace Cohort

open Document

/-- A query and the values of its placeholders, from left to right. -/
structure Sql where
  query : String
  args : List Value

namespace Sql

/-- A query as a document. -/
def toDocument (s : Sql) : Document :=
  .obj [("query", .str s.query), ("args", .arr (Value.documentsOf s.args))]

/-- The query of a document. -/
def ofDocument? (d : Document) : Option Sql := do
  let fields ← d.record? ["query", "args"]
  return {
    query := ← field? fields "query" text?
    args := ← field? fields "args" (list? fun v => some v.toValue) }

end Sql

end Cohort
