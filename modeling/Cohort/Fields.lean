/-! # Named fields in order of their names -/

namespace Cohort

/-- Named values. Where the names matter to the program they are distinct and ascending. -/
abbrev Fields (α : Type) := List (String × α)

namespace Fields

variable {α : Type}

/-- The value of a name. -/
def get? (fields : Fields α) (name : String) : Option α :=
  List.lookup name fields

/-- Sets the value of a name, which keeps its place or goes where the order puts it. -/
def set (fields : Fields α) (name : String) (value : α) : Fields α :=
  match fields with
  | [] => [(name, value)]
  | (key, old) :: rest =>
    if name = key then (name, value) :: rest
    else if name < key then (name, value) :: (key, old) :: rest
    else (key, old) :: Fields.set rest name value

/-- The fields without a name. -/
def erase (fields : Fields α) (name : String) : Fields α :=
  fields.filter fun entry => entry.1 != name

/-- Puts fields in order; of several values of a name the last one counts. -/
def ofList (entries : List (String × α)) : Fields α :=
  entries.foldl (fun fields entry => Fields.set fields entry.1 entry.2) []

/-- Puts values in order by a key of each. -/
def byKey (key : α → String) (values : List α) : Fields α :=
  ofList (values.map fun value => (key value, value))

end Fields

end Cohort
