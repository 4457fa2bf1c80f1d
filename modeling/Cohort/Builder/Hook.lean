import Cohort.Builder.Basic

/-! # Hooks around builders -/

namespace Cohort

/-! ## Hooks -/

/-- A hook makes a new step of the step that comes next. -/
abbrev Hook (α : Type) := α → α

namespace Hook

variable {α : Type}

/-- The hooks around a step: the first is the outermost. -/
def chain (hooks : List (Hook α)) : Hook α :=
  fun next => hooks.foldr (fun hook step => hook step) next

/-- The hooks behind one that comes first. -/
def chainWith (first : Hook α) (rest : List (Hook α)) : Hook α :=
  chain (first :: rest)

end Hook

/-! ## Wrapped builders -/

/-- A builder behind hooks, whose steps run in a monad. -/
structure Wrapped (m : Type → Type) where
  original : SqlBuilder
  metadata : Metadata
  build : Context → Params → m Sql

namespace Wrapped

variable {m : Type → Type}

/-- A builder without hooks. -/
def ofBuilder (lift : Except Fault Sql → m Sql) (b : SqlBuilder) : Wrapped m :=
  ⟨b, b.metadata, fun ctx params => lift (b.build ctx params)⟩

/-- Puts hooks around what the builder does by now. -/
def withBuildHooks (w : Wrapped m) (hooks : List (Hook (Context → Params → m Sql))) : Wrapped m :=
  { w with build := Hook.chain hooks w.build }

/-- Puts hooks around what is told of the builder by now. -/
def withMetadataHooks (w : Wrapped m) (hooks : List (Hook Metadata)) : Wrapped m :=
  { w with metadata := Hook.chain hooks w.metadata }

end Wrapped

/-- A builder behind hooks that do no more than builders do. -/
def SqlBuilder.wrap (b : SqlBuilder) (hooks : List (Hook BuildQuery))
    (metadataHooks : List (Hook Metadata)) : SqlBuilder :=
  let w := ((Wrapped.ofBuilder (fun r => r) b).withBuildHooks hooks).withMetadataHooks metadataHooks
  ⟨w.metadata, w.build⟩

end Cohort
