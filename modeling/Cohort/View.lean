import Cohort.Fragment.Validate
import Cohort.Fragment.Wire

/-! # Views: the forms of builders -/

namespace Cohort

/-- The fragments of a form, in the order in which they are shown and checked. -/
structure View where
  fragments : List Fragment

namespace View

/-- Checks parameters against the fragments in order, up to the first that fails. Fragments that are
not asked for are passed over. -/
def validateAll (params : Params) : List Fragment → Except Fault Unit
  | [] => .ok ()
  | f :: rest =>
    match f.validate params with
    | .ok () | .error .skipped => validateAll params rest
    | .error fault => .error fault

/-- Checks parameters against a view. -/
def validate (v : View) (params : Params) : Except Fault Unit :=
  validateAll params v.fragments

/-- A view as a document. -/
def toDocument (v : View) : Document :=
  .obj [("fragments", .arr (v.fragments.map Fragment.toDocument))]

/-- The view of a document. -/
def ofDocument? (d : Document) : Option View := do
  let fields ← d.record? ["fragments"]
  return ⟨← Document.fieldOr? fields "fragments"
    (Document.orDefault? (Document.list? Fragment.ofDocument?) []) []⟩

end View

end Cohort
