import Cohort.Dialect
import Cohort.Expression.Plan
import Cohort.Registry

/-! # Compiling expressions to one query -/

namespace Cohort

/-- The query of a tag. -/
def Tag.build (registry : Registry) (ctx : Context) (t : Tag) : Except Fault Sql :=
  match registry.builder? t.builderId with
  | none => .error (.builderNotFound t.builderId)
  | some builder =>
    match builder.sql? with
    | none => .error (.descriptiveOnly t.builderId)
    | some b => (b.build ctx t.params).mapError (.build t.builderId)

namespace Plan

section

variable (registry : Registry) (vocabulary : Vocabulary) (ctx : Context)

mutual

/-- The query of a plan whose first argument has the index `offset`. -/
def compile (offset : Nat) : Plan → Except Fault Sql
  | .tag t => t.build registry (ctx.withArgOffset offset)
  | .set op parts => do
    let (queries, args) ← compileAll offset parts
    return ⟨vocabulary.join op queries, args⟩

/-- The queries of plans in parentheses, and all their arguments. Each plan is compiled behind the
arguments of those before it. -/
def compileAll (offset : Nat) : List Plan → Except Fault (List String × List Value)
  | [] => .ok ([], [])
  | p :: rest => do
    let sql ← compile offset p
    let (queries, args) ← compileAll (offset + sql.args.length) rest
    return (vocabulary.parenthesize sql.query :: queries, sql.args ++ args)

end

end

end Plan

/-- The query of an expression, which is checked as a whole first. -/
def Expression.compile (registry : Registry) (vocabulary : Vocabulary) (ctx : Context)
    (e : Expression) : Except Fault Sql := do
  let plan ← e.plan.mapError .invalidExpression
  plan.compile registry vocabulary ctx ctx.argOffset

end Cohort
