import Cohort.Builder.Basic
import Cohort.Template.Rendering

/-! # Builders that render a template -/

namespace Cohort

/-- A builder by a template: the parameters are checked against the view, if there is one, and given
to the template. -/
structure TemplateBuilder where
  metadata : Metadata
  source : String
  placeholder : Template.Placeholder := fun _ => "?"

namespace TemplateBuilder

/-- Turns what templates answer into what builders answer. -/
def outcome {α : Type} (r : Except Template.Fault α) : Except Fault α :=
  r.mapError .template

/-- Checks parameters against the view of a builder, if it has one. -/
def check (b : TemplateBuilder) (params : Params) : Except Fault Unit :=
  match b.metadata.view with
  | some v => v.validate params
  | none => .ok ()

/-- The query for some parameters, whose first placeholder has the index `offset`. Nothing is
checked. -/
def renderAt (b : TemplateBuilder) (offset : Nat) (params : Params) : Except Fault Sql := do
  let t ← outcome (Template.read b.source)
  outcome (t.render b.placeholder offset params)

/-- Checks and renders. -/
def build (b : TemplateBuilder) : BuildQuery := fun ctx params => do
  b.check params
  b.renderAt ctx.argOffset params

/-- The builder that a template makes. -/
def toSqlBuilder (b : TemplateBuilder) : SqlBuilder := ⟨b.metadata, b.build⟩

end TemplateBuilder

end Cohort
