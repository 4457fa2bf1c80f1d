import Cohort.Document.Record
import Cohort.Expression.Basic

/-! # Expressions in documents -/

namespace Cohort

open Document

/-! ## Tags -/

namespace Tag

/-- The names of the fields. -/
def fieldNames : List String := ["builderID", "params"]

/-- A tag as a document. -/
def toDocument (t : Tag) : Document :=
  .obj [("builderID", .str t.builderId), ("params", (Value.obj t.params).toDocument)]

/-- The tag of a document. -/
def ofDocument? (d : Document) : Option Tag := do
  let fields ← d.record? fieldNames
  return {
    builderId := ← field? fields "builderID" text?
    params := ← fieldOr? fields "params" (orDefault? params? []) [] }

end Tag

/-! ## Nodes -/

namespace SetOperation

/-- The name of the field that holds the children under an operation. -/
def key : SetOperation → String
  | .intersect => "intersect"
  | .union => "union"
  | .except => "except"

/-- The operation of a field. -/
def ofKey? (name : String) : Option SetOperation :=
  all.find? fun op => op.key == name

end SetOperation

namespace Expression

/-- The names of the fields. -/
def fieldNames : List String := ["intersect", "union", "except", "tag"]

/-- A field that is left out if there are no children. -/
def childField (op : SetOperation) (children : List Document) : List (String × Document) :=
  if children.isEmpty then [] else [(op.key, .arr children)]

mutual

/-- An expression as a document: its lists that are not empty, and its tag if it has one. -/
def toDocument : Expression → Document
  | ⟨intersect, union, except, tag⟩ =>
    .obj (childField .intersect (documentsOf intersect) ++ childField .union (documentsOf union) ++
      childField .except (documentsOf except) ++ tag.toList.map fun t => ("tag", t.toDocument))

/-- Expressions as documents. -/
def documentsOf : List Expression → List Document
  | [] => []
  | e :: rest => e.toDocument :: documentsOf rest

end

mutual

/-- The expression of a document: an object of its fields, or a list of them in order. Lists and tag
may be null or left out. -/
def ofDocument? : Document → Option Expression
  | .obj fields =>
    if namedOnce (fields.filter fun entry => fieldNames.contains entry.1) then ofFields? fields
    else none
  | .arr items => ofItems? SetOperation.all items
  | _ => none

/-- The expression of named fields; others are passed over. -/
def ofFields? : List (String × Document) → Option Expression
  | [] => some empty
  | (name, d) :: rest => do
    let e ← ofFields? rest
    match SetOperation.ofKey? name with
    | some op => return e.withChildren op (← childrenOf? d)
    | none =>
      if name = "tag" then return { e with tag := ← nullable? Tag.ofDocument? d } else return e

/-- The expression of the lists of operations in order, with the tag behind them. -/
def ofItems? : List SetOperation → List Document → Option Expression
  | _, [] => some empty
  | op :: ops, d :: rest => do
    let e ← ofItems? ops rest
    return e.withChildren op (← childrenOf? d)
  | [], [d] => do return { empty with tag := ← nullable? Tag.ofDocument? d }
  | [], _ => none

/-- The children in a field; null stands for none. -/
def childrenOf? : Document → Option (List Expression)
  | .null => some []
  | .arr items => ofDocuments? items
  | _ => none

/-- The expressions of documents. -/
def ofDocuments? : List Document → Option (List Expression)
  | [] => some []
  | d :: rest => do
    let e ← ofDocument? d
    return e :: (← ofDocuments? rest)

end

end Expression

end Cohort
