import Cohort.Sql
import Cohort.Template.Assembly
import Cohort.Template.Evaluation

/-! # Rendering templates to queries -/

namespace Cohort

/-- A template that was read. -/
structure Template where
  nodes : List Template.Node

namespace Template

/-- Reads a template. -/
def read (source : String) : Except Fault Template := do
  return ⟨← parse source⟩

/-- Prints a template on some data. The values bound before are given and those bound after are
returned, also behind a fault. -/
def run (t : Template) (placeholder : Placeholder) (offset : Nat) (data : Value)
    (args : List Value) : Except ExecFault String × List Value :=
  StateT.run (ExceptT.run (execute placeholder offset t.nodes data)) args

/-- The query for some parameters. The placeholder of the first value has the index `offset`. -/
def render (t : Template) (placeholder : Placeholder) (offset : Nat) (params : Params) :
    Except Fault Sql :=
  match t.run placeholder offset (.obj params) [] with
  | (.ok query, args) => .ok ⟨query, args⟩
  | (.error fault, _) => .error (.exec fault)

end Template

end Cohort
