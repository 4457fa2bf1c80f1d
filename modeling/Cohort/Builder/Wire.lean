import Cohort.Builder.Basic

/-! # Categories and metadata in documents -/

namespace Cohort

open Document

namespace Category

/-- The fields of a category. -/
def toFields (c : Category) : List (String × Document) :=
  [("id", .str c.id), ("name", .str c.name), ("description", .str c.description)]

/-- A category as a document. -/
def toDocument (c : Category) : Document := .obj c.toFields

/-- The category of a document. -/
def ofDocument? (d : Document) : Option Category := do
  let fields ← d.record? ["id", "name", "description"]
  return {
    id := ← field? fields "id" text?
    name := ← field? fields "name" text?
    description := ← fieldOr? fields "description" text? "" }

end Category

namespace Metadata

/-- Metadata as a document. -/
def toDocument (m : Metadata) : Document :=
  .obj ([("id", .str m.id), ("name", .str m.name), ("description", .str m.description),
    ("categoryID", .str m.categoryId)] ++ m.view.toList.map fun v => ("view", v.toDocument))

/-- The metadata of a document. -/
def ofDocument? (d : Document) : Option Metadata := do
  let fields ← d.record? ["id", "name", "description", "categoryID", "view"]
  return {
    id := ← field? fields "id" text?
    name := ← field? fields "name" text?
    description := ← fieldOr? fields "description" text? ""
    categoryId := ← fieldOr? fields "categoryID" text? ""
    view := ← fieldOr? fields "view" (nullable? View.ofDocument?) none }

end Metadata

end Cohort
