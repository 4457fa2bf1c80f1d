import Cohort.Fields
import Cohort.Number.Basic

/-! # Documents: structured data as it is read and written -/

namespace Cohort

/-- Data as a text holds it. The fields of an object stand in their written order, and a name may be
written twice. -/
inductive Document where
  | null
  | bool (b : Bool)
  | int (n : Int)
  | float (x : Extended)
  | str (s : String)
  | arr (items : List Document)
  | obj (fields : List (String × Document))

instance : Inhabited Document := ⟨.null⟩

end Cohort
